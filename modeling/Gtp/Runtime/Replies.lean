/-
# What the RX loop answers, and to whom

Before a handshake is complete the server does not know whether the source address of a datagram is
the address of its sender.  `replies_bounded` is what keeps it from being used against others: a
datagram is answered by one datagram at most, which is less than twice as long, and goes back to its
source, or to an address whose own `HandshakeFinish` was accepted in the last three seconds.

The second case is the cache: a replayed `HandshakeFinish` is answered with the proof of the first,
at the address of the first.

* `Modest` is a reply to a datagram, compared with it in length; `Modest.sum_le` adds them up.
* `length_sendPacket` is the length of what is sent, and `Carries.length_le` that of what came in.
* `ConfirmedBy` traces an entry of the cache to the event that made it, and `Destined` says where a
  reply goes.

What the TX task sends is not a reply: it is paced, and before the path is validated limited, by the
engine (`Gtp.Core.Silence`).  The client's own `ClientHello` and `HandshakeFinish` are sent by
`connect`, to the address that the application named.
-/
import Gtp.Runtime.Earned
import Gtp.Wire.Canonical

namespace Gtp

/-! ## 1. The sizes of handshake datagrams -/

/-- A header that is read is as long as its shortest form, and inside the datagram. -/
theorem PacketHeader.decode_headerLen {buf : List UInt8} {header : PacketHeader} {headerLen : Nat}
    (h : decode buf = .ok (header, headerLen)) :
    minCommonHeaderLen ≤ headerLen ∧ headerLen ≤ buf.length := by
  have hbound : ∀ {flags : HeaderFlags} {n : Nat}, ¬ (n < minLen flags ∨ buf.length < n) →
      minCommonHeaderLen ≤ n ∧ n ≤ buf.length := by
    intro flags n hn
    have hmin : minCommonHeaderLen ≤ minLen flags := by
      unfold minLen
      split <;> decide
    obtain ⟨hlow, hhigh⟩ := not_or.mp hn
    exact ⟨hmin.trans (Nat.not_lt.mp hlow), Nat.not_lt.mp hhigh⟩
  unfold decode at h
  simp only [bind, Except.bind, pure, Except.pure, throw, throwThe, MonadExceptOf.throw] at h
  split at h
  · cases h
  · split at h
    · cases h
    · -- the offset of the length field depends on the form of the header
      split at h <;> split at h
      · cases h
      · rename_i hlen
        cases h
        exact hbound hlen
      · cases h
      · rename_i hlen
        cases h
        exact hbound hlen

theorem Carries.length_le {datagram : List UInt8} {cid : ConnectionId} {frame : Frame}
    (h : Carries datagram cid frame) (hself : frame.selfDelimiting) :
    minCommonHeaderLen + frame.needed ≤ datagram.length := by
  obtain ⟨header, headerLen, n, hheader, -, hframe⟩ := h
  obtain ⟨hlow, hhigh⟩ := PacketHeader.decode_headerLen hheader
  have hread : frame.needed ≤ (datagram.drop headerLen).length := by
    cases Frame.decode_inv hframe with
    | spelled _ h =>
      have hle := h.took.le_length (Nat.zero_le _)
      have hnext := h.took.next
      rw [Frame.length_bytes] at hnext
      omega
    | probe id hf => rw [hf] at hself; cases hself
    | pad hf => rw [hf] at hself; cases hself
  rw [List.length_drop] at hread
  omega

theorem length_sendPacket {size : Nat} {cid : ConnectionId} {frame : Frame} {dest : SocketAddr}
    (hsize : minLongHeaderLen + frame.needed ≤ size) (hover : frame.oversize = false) :
    ∃ datagram, sendPacket size cid frame dest = [(dest, datagram)] ∧
      datagram.length = minLongHeaderLen + frame.needed := by
  refine ⟨(PacketHeader.newLong 1 cid 0 0 0).bytes ++ frame.bytes, ?_, ?_⟩
  · unfold sendPacket
    rw [handshakePacket_eq cid 0 hsize hover]
  · rw [List.length_append, PacketHeader.length_bytes_long (isLongHeader_newLong ..),
      Frame.length_bytes]

theorem sendPacket_dest {size : Nat} {cid : ConnectionId} {frame : Frame} {dest : SocketAddr}
    {o : Outgoing} (h : o ∈ sendPacket size cid frame dest) : o.1 = dest := by
  unfold sendPacket at h
  split at h
  · rw [List.mem_singleton.mp h]
  · cases h

/-! ## 2. The replies -/

/-- A reply to a datagram: one datagram at most, shorter than twice the one it answers. -/
def Modest (datagram : List UInt8) (out : List Outgoing) : Prop :=
  out.length ≤ 1 ∧ ∀ o ∈ out, o.2.length < 2 * datagram.length

theorem modest_nil (datagram : List UInt8) : Modest datagram [] :=
  ⟨Nat.zero_le 1, fun _ h => absurd h List.not_mem_nil⟩

theorem Modest.sum_le {datagram : List UInt8} {out : List Outgoing} (h : Modest datagram out) :
    (out.map (·.2.length)).sum ≤ 2 * datagram.length := by
  obtain ⟨hone, hlen⟩ := h
  match out, hone with
  | [], _ => simp
  | [o], _ =>
    have hlt := hlen o (List.mem_singleton_self o)
    simp only [List.map_cons, List.map_nil, List.sum_cons, List.sum_nil]
    omega

theorem modest_sendPacket {datagram : List UInt8} {size : Nat} {cid : ConnectionId} {frame : Frame}
    {dest : SocketAddr} (hsize : minLongHeaderLen + frame.needed ≤ size)
    (hover : frame.oversize = false)
    (hlen : minLongHeaderLen + frame.needed < 2 * datagram.length) :
    Modest datagram (sendPacket size cid frame dest) := by
  obtain ⟨reply, hreply, hlength⟩ := length_sendPacket hsize hover
  rw [hreply]
  refine ⟨Nat.le_refl 1, ?_⟩
  intro o ho
  rw [List.mem_singleton.mp ho, hlength]
  exact hlen

namespace GtpEndpoint

section

variable [KeyExchange] [CryptoSuite]

/-- The `HandshakeFinish` that an entry of the cache stands for: it came from the address of the
entry, with a cookie for it, and completed a handshake. -/
structure ConfirmedBy (cid : ConnectionId) (entry : Bytes 32 × SocketAddr × MonotonicTime)
    (ep : GtpEndpoint) (e : Event) : Prop where
  finish : ∃ datagram secret nonce cookie proof pending shared,
    e = .receive entry.2.1 datagram entry.2.2 secret nonce ∧
    Carries datagram cid (.handshakeFinish cookie proof) ∧
    ep.statelessTokens.verifyCookie entry.2.1 cookie entry.2.2 = true ∧
    ep.pendingServerHandshakes[cid]? = some pending ∧ ep.serverSecret pending = some shared ∧
    proof = computeClientProof shared (serverTranscript pending cid) ∧
    entry.1 = computeServerProof shared (serverTranscript pending cid)

/-- An entry of the cache was there before, or the event made it. -/
theorem step_acceptedFinishes (ep : GtpEndpoint) (e : Event) {cid : ConnectionId}
    {entry : Bytes 32 × SocketAddr × MonotonicTime}
    (hentry : (ep.step e).acceptedFinishes[cid]? = some entry) :
    ep.acceptedFinishes[cid]? = some entry ∨ ConfirmedBy cid entry ep e := by
  have h := ep.step_serverStep e
  generalize ep.step e = ep' at h hentry
  cases h with
  | aside hside =>
    simp only [serverSide, Prod.mk.injEq] at hside
    exact Or.inl (hside.2.2.2 ▸ hentry)
  | @clientHello src datagram now secret nonce i pk clientNonce version hcarries =>
    obtain ⟨limiter, pending, heq, -⟩ :=
      ep.onClientHello_spec i src pk clientNonce version now secret nonce
    rw [heq] at hentry
    exact Or.inl hentry
  | @handshakeFinish src datagram now secret nonce i cookie proof hcarries =>
    have hout := ep.onHandshakeFinish_outcome i src cookie proof now
    generalize ep.onHandshakeFinish i src cookie proof now = r at hout hentry
    cases hout with
    | refused => exact Or.inl hentry
    | cached => exact Or.inl (getElem?_of_filter hentry)
    | failed => exact Or.inl (getElem?_of_filter hentry)
    | accepted pending shared hcookie hpending hshared hproof ep' hside harena =>
      simp only [serverSide, Prod.mk.injEq] at hside
      dsimp only at hentry
      rw [hside.2.2.2, Maps.getElem?_insert] at hentry
      split at hentry
      · rename_i hid
        obtain rfl := hid
        obtain rfl := Option.some.inj hentry
        exact Or.inr ⟨datagram, secret, nonce, cookie, proof, pending, shared, rfl, hcarries,
          hcookie, hpending, hshared, hproof, rfl⟩
      · exact Or.inl (getElem?_of_filter hentry)

/-- Where a reply to a datagram of `src` goes. -/
inductive Destined (ep : GtpEndpoint) (src : SocketAddr) (now : MonotonicTime) (o : Outgoing) : Prop
  /-- Back. -/
  | back (h : o.1 = src)
  /-- To the address in the cache, with the proof in the cache. -/
  | cached (cid : ConnectionId) (proof : Bytes 32) (t : MonotonicTime)
      (hentry : ep.acceptedFinishes[cid]? = some (proof, o.1, t))
      (hage : now - t ≤ handshakeLifetime) (hcarries : Carries o.2 cid (.serverFinish proof))

/-- **One datagram.** -/
theorem receive_modest (ep : GtpEndpoint) (src : SocketAddr) (datagram : List UInt8)
    (now : MonotonicTime) (secret nonce : Bytes 32) :
    Modest datagram (ep.handle (.receive src datagram now secret nonce)).2 ∧
      ∀ o ∈ (ep.handle (.receive src datagram now secret nonce)).2, Destined ep src now o := by
  have hnone : Modest datagram [] ∧ ∀ o ∈ ([] : List Outgoing), Destined ep src now o :=
    ⟨modest_nil datagram, fun _ h => absurd h List.not_mem_nil⟩
  have hfinish : ∀ {cid : ConnectionId} {cookie clientProof : Bytes 32} (proof : Bytes 32)
      (dest : SocketAddr), Carries datagram cid (.handshakeFinish cookie clientProof) →
      Modest datagram (sendServerFinish cid proof dest) := by
    intro cid cookie clientProof proof dest hcarries
    have hlen := hcarries.length_le rfl
    refine modest_sendPacket (by decide : minLongHeaderLen + (1 + 32) ≤ 128) rfl ?_
    change minLongHeaderLen + (1 + 32) < _
    change minCommonHeaderLen + (1 + 32 + 32) ≤ _ at hlen
    unfold minLongHeaderLen minCommonHeaderLen at *
    omega
  have h := ep.onDatagram_received src datagram now secret nonce
  change Modest datagram (ep.onDatagram src datagram now secret nonce).2 ∧
    ∀ o ∈ (ep.onDatagram src datagram now secret nonce).2, _
  generalize ep.onDatagram src datagram now secret nonce = r at h
  cases h with
  | dropped => exact hnone
  | @clientHello cid pk clientNonce version hcarries =>
    unfold onClientHello
    split
    · exact hnone
    · dsimp only
      split
      · exact hnone
      · have hlen := hcarries.length_le rfl
        dsimp only
        constructor
        · refine modest_sendPacket (by decide : minLongHeaderLen + (1 + 32 + 32 + 32 + 8 + 32) ≤ 256)
            rfl ?_
          change minLongHeaderLen + (1 + 32 + 32 + 32 + 8 + 32) < _
          change minCommonHeaderLen + (1 + 32 + 32 + 4) ≤ _ at hlen
          unfold minLongHeaderLen minCommonHeaderLen at *
          omega
        · intro o ho
          exact .back (sendPacket_dest ho)
  | serverHello hcarries => exact hnone
  | @handshakeFinish cid cookie proof hcarries =>
    have hout := ep.onHandshakeFinish_outcome cid src cookie proof now
    generalize ep.onHandshakeFinish cid src cookie proof now = r at hout
    cases hout with
    | refused => exact hnone
    | failed => exact hnone
    | cached proof' dest t hcached =>
      dsimp only
      refine ⟨hfinish proof' dest hcarries, ?_⟩
      intro o ho
      obtain rfl := sendPacket_dest ho
      rw [sweptFinishes, Std.ExtTreeMap.getElem?_filter', Option.filter_eq_some_iff,
        decide_eq_true_eq] at hcached
      refine .cached cid proof' t hcached.1 hcached.2 ?_
      exact sendPacket_carries rfl (by decide : minLongHeaderLen + (1 + 32) ≤ 128) rfl ho
    | accepted pending shared hcookie hpending hshared hproof ep' hside harena =>
      dsimp only
      refine ⟨hfinish _ src hcarries, ?_⟩
      intro o ho
      exact .back (sendPacket_dest ho)
  | serverFinish hcarries => exact hnone
  | data hdata => exact hnone

/-! ## 3. Runs -/

omit [KeyExchange] [CryptoSuite] in
/-- The bytes that arrive. -/
def arrivedBytes : Event → Nat
  | .receive _ datagram _ _ _ => datagram.length
  | _ => 0

/-- The bytes that the RX loop answers with. -/
def repliedBytes (ep : GtpEndpoint) : Event → Nat
  | .receive src datagram now secret nonce =>
    ((ep.handle (.receive src datagram now secret nonce)).2.map (·.2.length)).sum
  | _ => 0

theorem repliedBytes_le (ep : GtpEndpoint) (e : Event) :
    ep.repliedBytes e ≤ 2 * arrivedBytes e := by
  cases e with
  | receive src datagram now secret nonce =>
    exact (ep.receive_modest src datagram now secret nonce).1.sum_le
  | _ => exact Nat.zero_le _

theorem repliedBytes_run_le (ep : GtpEndpoint) (events : List Event) :
    (Runs.outputs step repliedBytes ep events).sum ≤ 2 * (events.map arrivedBytes).sum := by
  induction events generalizing ep with
  | nil => exact Nat.le_refl 0
  | cons e events ih =>
    have hfirst := ep.repliedBytes_le e
    have hrest := ih (ep.step e)
    simp only [Runs.outputs, List.map_cons, List.sum_cons]
    omega

/-- **The RX loop does not amplify**, in any run.  A datagram is answered by one datagram at most,
which is less than twice as long.  The reply goes back to where the datagram came from, or repeats
the confirmation of a handshake that was completed from the address it goes to, with a cookie for
that address and the right proof, in the last three seconds.  So all replies of a run together are
at most twice as long as what arrived. -/
theorem replies_bounded (tokenSecret : Bytes 32) (identity : Option StaticIdentity)
    (pinned : Option (Bytes 32)) (events : List Event) (src : SocketAddr) (datagram : List UInt8)
    (now : MonotonicTime) (secret nonce : Bytes 32) :
    (Modest datagram (((bind tokenSecret identity pinned).run events).handle
        (.receive src datagram now secret nonce)).2 ∧
      ∀ o ∈ (((bind tokenSecret identity pinned).run events).handle
          (.receive src datagram now secret nonce)).2,
        o.1 = src ∨ ∃ cid proof t before finish after,
          events = before ++ finish :: after ∧
          ConfirmedBy cid (proof, o.1, t) ((bind tokenSecret identity pinned).run before) finish ∧
          now - t ≤ handshakeLifetime ∧ Carries o.2 cid (.serverFinish proof)) ∧
      (Runs.outputs step repliedBytes (bind tokenSecret identity pinned) events).sum ≤
        2 * (events.map arrivedBytes).sum := by
  obtain ⟨start, hstart⟩ : ∃ start, start = bind tokenSecret identity pinned := ⟨_, rfl⟩
  have hnone : ∀ cid : ConnectionId, start.acceptedFinishes[cid]? = none := by
    intro cid
    rw [hstart]
    rfl
  rw [← hstart]
  obtain ⟨hmodest, hdest⟩ := (start.run events).receive_modest src datagram now secret nonce
  refine ⟨⟨hmodest, ?_⟩, start.repliedBytes_run_le events⟩
  intro o ho
  cases hdest o ho with
  | back h => exact Or.inl h
  | cached cid proof t hentry hage hcarries =>
    have hmade : ∀ ep e, (step ep e).acceptedFinishes[cid]? = some (proof, o.1, t) →
        ep.acceptedFinishes[cid]? = some (proof, o.1, t) ∨ ConfirmedBy cid (proof, o.1, t) ep e :=
      fun ep e => ep.step_acceptedFinishes e
    have hnot : ¬ start.acceptedFinishes[cid]? = some (proof, o.1, t) := by simp [hnone cid]
    obtain ⟨before, finish, after, hevents, hconfirms, -⟩ :=
      Runs.since (H := fun ep : GtpEndpoint =>
        ep.acceptedFinishes[cid]? = some (proof, o.1, t)) hmade hnot hentry
    exact Or.inr ⟨cid, proof, t, before, finish, after, hevents, hconfirms, hage, hcarries⟩

end

end GtpEndpoint

end Gtp
