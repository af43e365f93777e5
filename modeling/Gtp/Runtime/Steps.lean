/-
# What an event does to an endpoint

Said once for each kind of event, and used by every invariant.

* `handshakePacket_carries`: a handshake datagram fits its buffer and is read back as what was
  written.
* `onDatagram_received`: a datagram is dropped, is one of the four handshake frames, or is data.
* `onClientHello_spec`: a `ClientHello` concerns the pending handshakes only.
* `onHandshakeFinish_finished`: a `HandshakeFinish` is answered from the cache or is ACCEPTED, and
  `accepted?` reads off the state before the step which secret and transcript were confirmed.
* `advance_advanced`: what a step of a call leaves alone.
* `onDatagram_clientSide`: what a datagram does to the calls, which is to hand a value to the one
  that waits.

Where a handler is long, its outcomes are a structure or an inductive type (`Received`, `Finished`,
`Advanced`), so that a later proof takes them apart by name and does not unfold the handler.

An event is one step here, as in `Gtp.Runtime.Endpoint`; the handlers that leave the locks in
between are taken apart in `Gtp.Runtime.Sections`.
-/
import Gtp.Runtime.Endpoint
import Gtp.Wire.Builder
import Gtp.Lib.Maps

namespace Gtp

/-! ## 1. Handshake datagrams -/

/-- The datagram is read as this frame under this connection id. -/
def Carries (datagram : List UInt8) (cid : ConnectionId) (frame : Frame) : Prop :=
  ∃ header headerLen n, PacketHeader.decode datagram = .ok (header, headerLen) ∧
    header.connectionId = cid ∧ Frame.decode (datagram.drop headerLen) = .ok (frame, n)

theorem Carries.unique {datagram : List UInt8} {cid cid' : ConnectionId} {frame frame' : Frame}
    (h : Carries datagram cid frame) (h' : Carries datagram cid' frame') :
    cid = cid' ∧ frame = frame' := by
  obtain ⟨header, headerLen, n, hheader, rfl, hframe⟩ := h
  obtain ⟨header', headerLen', n', hheader', rfl, hframe'⟩ := h'
  rw [hheader] at hheader'
  cases hheader'
  rw [hframe] at hframe'
  cases hframe'
  exact ⟨rfl, rfl⟩

theorem isLongHeader_newLong (version : UInt32) (cid : ConnectionId) (packetNumber : PacketNumber)
    (timestampMicros : UInt32) (payloadLen : UInt16) :
    (PacketHeader.newLong version cid packetNumber timestampMicros
      payloadLen).flags.isLongHeader = true := by
  change HeaderFlags.isLongHeader 0x80 = true
  decide

theorem handshakePacket_eq {size : Nat} {frame : Frame} (cid : ConnectionId)
    (packetNumber : PacketNumber) (hsize : minLongHeaderLen + frame.needed ≤ size)
    (hover : frame.oversize = false) :
    handshakePacket size cid packetNumber frame =
      .ok ((PacketHeader.newLong 1 cid packetNumber 0 0).bytes ++ frame.bytes) := by
  have hlong := isLongHeader_newLong 1 cid packetNumber 0 0
  have hlen := PacketHeader.length_bytes_long hlong
  unfold handshakePacket
  generalize PacketHeader.newLong 1 cid packetNumber 0 0 = header at hlong hlen ⊢
  have hheader : header.encode (List.replicate size 0) =
      (.ok minLongHeaderLen, header.bytes ++ (List.replicate size 0).drop minLongHeaderLen) := by
    unfold PacketHeader.encode
    rw [PacketHeader.minLen_long hlong, List.length_replicate, if_neg (by omega), hlen]
  have hroom : frame.needed ≤ ((List.replicate size (0 : UInt8)).drop minLongHeaderLen).length := by
    rw [List.length_drop, List.length_replicate]
    omega
  have hdrop : (header.bytes ++ (List.replicate size 0).drop minLongHeaderLen).drop
      minLongHeaderLen = (List.replicate size 0).drop minLongHeaderLen := by
    rw [← hlen, List.drop_left]
  have htake : (header.bytes ++ (List.replicate size 0).drop minLongHeaderLen).take
      minLongHeaderLen = header.bytes := by
    rw [← hlen, List.take_left]
  rw [hheader]
  dsimp only
  rw [hdrop, htake, PacketBuilder.encode_ok hroom hover]
  dsimp only
  rw [← List.append_assoc, ← Frame.length_bytes, ← hlen, ← List.length_append, List.take_left]

/-- **A handshake datagram comes back** as the frame it was built from. -/
theorem handshakePacket_carries {size : Nat} {frame : Frame} {cid : ConnectionId}
    {packetNumber : PacketNumber} {datagram : List UInt8} (hself : frame.selfDelimiting)
    (hsize : minLongHeaderLen + frame.needed ≤ size) (hover : frame.oversize = false)
    (h : handshakePacket size cid packetNumber frame = .ok datagram) :
    Carries datagram cid frame.canon := by
  rw [handshakePacket_eq cid packetNumber hsize hover] at h
  cases h
  have hlong := isLongHeader_newLong 1 cid packetNumber 0 0
  refine ⟨_, _, frame.bytes.length, PacketHeader.decode_bytes_long hlong rfl rfl _, rfl, ?_⟩
  have hdrop : ((PacketHeader.newLong 1 cid packetNumber 0 0).bytes ++ frame.bytes).drop
      minLongHeaderLen = frame.bytes ++ [] := by
    rw [← PacketHeader.length_bytes_long hlong, List.drop_left, List.append_nil]
  rw [hdrop]
  exact Frame.decode_bytes hself hover []

/-- What is sent by `sendPacket` carries the frame. -/
theorem sendPacket_carries {size : Nat} {frame : Frame} {cid : ConnectionId} {dest : SocketAddr}
    (hself : frame.selfDelimiting) (hsize : minLongHeaderLen + frame.needed ≤ size)
    (hover : frame.oversize = false) {out : Outgoing} (h : out ∈ sendPacket size cid frame dest) :
    Carries out.2 cid frame.canon := by
  unfold sendPacket at h
  split at h
  · rename_i datagram hpacket
    rw [List.mem_singleton.mp h]
    exact handshakePacket_carries hself hsize hover hpacket
  · cases h

/-- The datagram goes to the handshake branches of the RX loop. -/
def IsHandshake (datagram : List UInt8) : Prop :=
  ∃ header headerLen, PacketHeader.decode datagram = .ok (header, headerLen) ∧
    isHandshakeCandidate header headerLen datagram.length = true ∧
    ∃ b ∈ [(0x0B : UInt8), 0x0C, 0x0D, 0x0E], (datagram.drop headerLen).head? = some b

theorem handshakePacket_isHandshake {size : Nat} {frame : Frame} {cid : ConnectionId}
    {packetNumber : PacketNumber} {datagram : List UInt8}
    (htype : frame.frameType ∈ [(0x0B : UInt8), 0x0C, 0x0D, 0x0E])
    (hsize : minLongHeaderLen + frame.needed ≤ size) (hover : frame.oversize = false)
    (h : handshakePacket size cid packetNumber frame = .ok datagram) : IsHandshake datagram := by
  rw [handshakePacket_eq cid packetNumber hsize hover] at h
  cases h
  have hlong := isLongHeader_newLong 1 cid packetNumber 0 0
  have hlen := PacketHeader.length_bytes_long hlong
  refine ⟨_, _, PacketHeader.decode_bytes_long hlong rfl rfl _, ?_, frame.frameType, htype, ?_⟩
  · have hpos := Frame.bytes_pos frame
    unfold isHandshakeCandidate
    rw [hlong, Bool.true_and, decide_eq_true_eq, List.length_append, hlen]
    omega
  · rw [← hlen, List.drop_left]
    rfl

theorem sendPacket_isHandshake {size : Nat} {frame : Frame} {cid : ConnectionId} {dest : SocketAddr}
    (htype : frame.frameType ∈ [(0x0B : UInt8), 0x0C, 0x0D, 0x0E])
    (hsize : minLongHeaderLen + frame.needed ≤ size) (hover : frame.oversize = false)
    {out : Outgoing} (h : out ∈ sendPacket size cid frame dest) : IsHandshake out.2 := by
  unfold sendPacket at h
  split at h
  · rename_i datagram hpacket
    rw [List.mem_singleton.mp h]
    exact handshakePacket_isHandshake htype hsize hover hpacket
  · cases h

namespace GtpEndpoint

/-! ## 2. A datagram -/

section Receive

variable [KeyExchange] [CryptoSuite]

/-- What the RX loop can make of a datagram. -/
inductive Received (ep : GtpEndpoint) (src : SocketAddr) (datagram : List UInt8)
    (now : MonotonicTime) (secret nonce : Bytes 32) : GtpEndpoint × List Outgoing → Prop where
  | dropped : Received ep src datagram now secret nonce (ep, [])
  | clientHello {cid : ConnectionId} {pk clientNonce : Bytes 32} {version : UInt32}
      (h : Carries datagram cid (.clientHello pk clientNonce version)) :
      Received ep src datagram now secret nonce
        (ep.onClientHello cid src pk clientNonce version now secret nonce)
  | serverHello {cid assigned : ConnectionId} {pk serverNonce cookie static : Bytes 32}
      (h : Carries datagram cid (.serverHello pk serverNonce cookie assigned static)) :
      Received ep src datagram now secret nonce
        (ep.onServerHello assigned ⟨pk, serverNonce, cookie, static⟩, [])
  | handshakeFinish {cid : ConnectionId} {cookie proof : Bytes 32}
      (h : Carries datagram cid (.handshakeFinish cookie proof)) :
      Received ep src datagram now secret nonce (ep.onHandshakeFinish cid src cookie proof now)
  | serverFinish {cid : ConnectionId} {proof : Bytes 32}
      (h : Carries datagram cid (.serverFinish proof)) :
      Received ep src datagram now secret nonce (ep.onServerFinish cid proof, [])
  | data {cid : ConnectionId} (h : ¬ IsHandshake datagram) :
      Received ep src datagram now secret nonce (ep.onData cid src datagram now, [])

theorem onDatagram_received (ep : GtpEndpoint) (src : SocketAddr) (datagram : List UInt8)
    (now : MonotonicTime) (secret nonce : Bytes 32) :
    Received ep src datagram now secret nonce (ep.onDatagram src datagram now secret nonce) := by
  unfold onDatagram
  split
  · exact .dropped
  · rename_i header headerLen hheader
    have hcarries : ∀ {frame : Frame} {n : Nat},
        Frame.decode (datagram.drop headerLen) = .ok (frame, n) →
        Carries datagram header.connectionId frame :=
      fun hframe => ⟨header, headerLen, _, hheader, rfl, hframe⟩
    dsimp only
    split
    · rename_i hcandidate
      split
      · rename_i hframe
        exact .clientHello (hcarries hframe)
      · rename_i hframe
        exact .serverHello (hcarries hframe)
      · rename_i hframe
        exact .handshakeFinish (hcarries hframe)
      · rename_i hframe
        exact .serverFinish (hcarries hframe)
      · exact .dropped
      · exact .dropped
      · exact .dropped
      · exact .dropped
      · rename_i hb hc hd he _ _ _ _
        refine .data ?_
        rintro ⟨header', headerLen', hheader', -, b, hb', hhead⟩
        rw [hheader] at hheader'
        cases hheader'
        simp only [List.mem_cons, List.not_mem_nil, or_false] at hb'
        rcases hb' with rfl | rfl | rfl | rfl
        · exact hb hhead
        · exact hc hhead
        · exact hd hhead
        · exact he hhead
    · rename_i hcandidate
      refine .data ?_
      rintro ⟨header', headerLen', hheader', hcandidate', -⟩
      rw [hheader] at hheader'
      cases hheader'
      exact hcandidate hcandidate'

omit [CryptoSuite] in
/-- A `ClientHello` concerns only the pending handshakes of the server, and is answered by a
`ServerHello` at most. -/
theorem onClientHello_spec (ep : GtpEndpoint) (cid : ConnectionId) (src : SocketAddr)
    (pk clientNonce : Bytes 32) (version : UInt32) (now : MonotonicTime) (secret nonce : Bytes 32) :
    ∃ limiter pending, (ep.onClientHello cid src pk clientNonce version now secret nonce).1 =
        { ep with helloRateLimiter := limiter, pendingServerHandshakes := pending } ∧
      ∀ out ∈ (ep.onClientHello cid src pk clientNonce version now secret nonce).2,
        ∃ pk serverNonce cookie static, out ∈ sendPacket 256 cid
          (.serverHello pk serverNonce cookie cid static) src := by
  unfold onClientHello
  split
  · exact ⟨_, _, rfl, fun out h => absurd h List.not_mem_nil⟩
  · dsimp only
    split
    · exact ⟨_, _, rfl, fun out h => absurd h List.not_mem_nil⟩
    · refine ⟨_, _, rfl, ?_⟩
      intro out h
      dsimp only at h
      exact ⟨_, _, _, _, h⟩

/-- The handler of `HandshakeFinish`, with the registration in its branch. -/
theorem onHandshakeFinish_eq (ep : GtpEndpoint) (cid : ConnectionId) (src : SocketAddr)
    (cookieEcho clientProof : Bytes 32) (now : MonotonicTime) :
    ep.onHandshakeFinish cid src cookieEcho clientProof now =
      if !ep.statelessTokens.verifyCookie src cookieEcho now then (ep, [])
      else
        let ep := { ep with
          acceptedFinishes := ep.acceptedFinishes.filter fun _ entry =>
            decide (now - entry.2.2 ≤ handshakeLifetime) }
        match ep.acceptedFinishes[cid]? with
        | some (proof, dest, _) => (ep, sendServerFinish cid proof dest)
        | none =>
          match ep.pendingServerHandshakes[cid]? with
          | none => (ep, [])
          | some pending =>
            let ep := { ep with pendingServerHandshakes := ep.pendingServerHandshakes.erase cid }
            match ep.serverSecret pending with
            | none => (ep, [])
            | some shared =>
              let transcript := serverTranscript pending cid
              if !verifyClientProof shared transcript clientProof then (ep, [])
              else
                let serverProof := computeServerProof shared transcript
                let ep := { ep with
                  acceptedFinishes := ep.acceptedFinishes.insert cid (serverProof, src, now) }
                let conn := GtpConnection.newWithDirectionalKeys cid src
                  (sessionKeys (shared, transcript)) false true .competitiveFps
                (ep.acceptConnection cid conn, sendServerFinish cid serverProof src) := by
  unfold onHandshakeFinish confirmFinish
  cases ep.statelessTokens.verifyCookie src cookieEcho now with
  | false => rfl
  | true =>
    have hnot : ¬ ((!true) = true) := Bool.false_ne_true
    rw [if_neg hnot, if_neg hnot]
    dsimp only
    generalize (ep.acceptedFinishes.filter fun _ entry =>
      decide (now - entry.2.2 ≤ handshakeLifetime)) = cache
    cases cache[cid]? with
    | some entry => dsimp only
    | none =>
      dsimp only
      cases ep.pendingServerHandshakes[cid]? with
      | none => dsimp only
      | some pending =>
        have hsecret : ({ ep with acceptedFinishes := cache, pendingServerHandshakes :=
            ep.pendingServerHandshakes.erase cid } : GtpEndpoint).serverSecret pending =
            ep.serverSecret pending := rfl
        dsimp only
        rw [hsecret]
        cases ep.serverSecret pending with
        | none => dsimp only
        | some shared =>
          dsimp only
          cases verifyClientProof shared (serverTranscript pending cid) clientProof with
          | false => rw [if_pos (Bool.not_false), if_pos (Bool.not_false)]
          | true => rw [if_neg hnot, if_neg hnot]

/-- The handshake that a `HandshakeFinish` completes, if it does. -/
def accepted? (ep : GtpEndpoint) (cid : ConnectionId) (src : SocketAddr)
    (cookieEcho clientProof : Bytes 32) (now : MonotonicTime) : Option Confirmation :=
  if !ep.statelessTokens.verifyCookie src cookieEcho now then none
  else if ((ep.acceptedFinishes.filter fun _ entry =>
      decide (now - entry.2.2 ≤ handshakeLifetime))[cid]?).isSome then none
  else
    match ep.pendingServerHandshakes[cid]? with
    | none => none
    | some pending =>
      match ep.serverSecret pending with
      | none => none
      | some shared =>
        let transcript := serverTranscript pending cid
        if verifyClientProof shared transcript clientProof then some (shared, transcript) else none

/-- What the connections, the cache and the answer are after a `HandshakeFinish`. -/
structure Finished (ep : GtpEndpoint) (cid : ConnectionId) (src : SocketAddr)
    (conf : Option Confirmation) (r : GtpEndpoint × List Outgoing) : Prop where
  connections : r.1.connections = ep.connections ∧ r.1.arena = ep.arena ∨
    ∃ c, conf = some c ∧ cid ∉ ep.connections ∧
      r.1.connections = ep.connections.insert cid ep.arena.length ∧
      r.1.arena = ep.arena ++ [⟨GtpConnection.newWithDirectionalKeys cid src (sessionKeys c) false
        true .competitiveFps, [], true⟩]
  answered : ∀ c, conf = some c → c.2.connectionId = cid ∧ cid ∈ r.1.connections
  cache : ∀ (i : ConnectionId) (v : Bytes 32 × SocketAddr × MonotonicTime),
    r.1.acceptedFinishes[i]? = some v → ep.acceptedFinishes[i]? = some v ∨
    ∃ c, conf = some c ∧ v.1 = computeServerProof c.1 c.2
  out : ∀ o ∈ r.2, ∃ proof dest, o ∈ sendServerFinish cid proof dest ∧
    ((∃ v : Bytes 32 × SocketAddr × MonotonicTime, ep.acceptedFinishes[cid]? = some v ∧
        v.1 = proof) ∨
      ∃ c, conf = some c ∧ proof = computeServerProof c.1 c.2)

omit [KeyExchange] [CryptoSuite] in
theorem getElem?_of_filter {α : Type} {m : Std.ExtTreeMap ConnectionId α compare}
    {f : ConnectionId → α → Bool} {i : ConnectionId} {v : α} (h : (m.filter f)[i]? = some v) :
    m[i]? = some v := by
  rw [Std.ExtTreeMap.getElem?_filter'] at h
  exact (Option.filter_eq_some_iff.mp h).1

theorem Finished.of_none {ep ep' : GtpEndpoint} {cid : ConnectionId} {src : SocketAddr}
    {out : List Outgoing} (hconnections : ep'.connections = ep.connections)
    (harena : ep'.arena = ep.arena)
    (hcache : ∀ (i : ConnectionId) (v : Bytes 32 × SocketAddr × MonotonicTime),
      ep'.acceptedFinishes[i]? = some v → ep.acceptedFinishes[i]? = some v)
    (hout : ∀ o ∈ out, ∃ v : Bytes 32 × SocketAddr × MonotonicTime,
      ep.acceptedFinishes[cid]? = some v ∧ o ∈ sendServerFinish cid v.1 v.2.1) :
    Finished ep cid src none (ep', out) where
  connections := Or.inl ⟨hconnections, harena⟩
  answered c h := by cases h
  cache i v h := Or.inl (hcache i v h)
  out o h := by
    obtain ⟨v, hv, ho⟩ := hout o h
    exact ⟨v.1, v.2.1, ho, Or.inl ⟨v, hv, rfl⟩⟩

/-- **A `HandshakeFinish`.** -/
theorem onHandshakeFinish_finished (ep : GtpEndpoint) (cid : ConnectionId) (src : SocketAddr)
    (cookieEcho clientProof : Bytes 32) (now : MonotonicTime) :
    Finished ep cid src (ep.accepted? cid src cookieEcho clientProof now)
      (ep.onHandshakeFinish cid src cookieEcho clientProof now) := by
  have hnil : ∀ o ∈ ([] : List Outgoing), ∃ v : Bytes 32 × SocketAddr × MonotonicTime,
      ep.acceptedFinishes[cid]? = some v ∧ o ∈ sendServerFinish cid v.1 v.2.1 :=
    fun o h => absurd h List.not_mem_nil
  rw [onHandshakeFinish_eq]
  unfold accepted?
  cases hcookie : ep.statelessTokens.verifyCookie src cookieEcho now with
  | false => exact .of_none rfl rfl (fun i v h => h) hnil
  | true =>
    obtain ⟨cache, hcache⟩ : ∃ cache, cache = ep.acceptedFinishes.filter fun _ entry =>
      decide (now - entry.2.2 ≤ handshakeLifetime) := ⟨_, rfl⟩
    have hold : ∀ (i : ConnectionId) (v : Bytes 32 × SocketAddr × MonotonicTime),
        cache[i]? = some v → ep.acceptedFinishes[i]? = some v := by
      intro i v h
      rw [hcache] at h
      exact getElem?_of_filter h
    rw [← hcache]
    have hnot : ¬ ((!true) = true) := Bool.false_ne_true
    rw [if_neg hnot, if_neg hnot]
    dsimp only
    cases hcached : cache[cid]? with
    | some v =>
      rw [Option.isSome_some, if_pos rfl]
      refine .of_none rfl rfl hold fun o h => ⟨v, hold cid v hcached, h⟩
    | none =>
      rw [Option.isSome_none, if_neg Bool.false_ne_true]
      cases hpending : ep.pendingServerHandshakes[cid]? with
      | none => exact .of_none rfl rfl hold hnil
      | some pending =>
        have hsecret : ({ ep with acceptedFinishes := cache, pendingServerHandshakes :=
            ep.pendingServerHandshakes.erase cid } : GtpEndpoint).serverSecret pending =
            ep.serverSecret pending := rfl
        dsimp only
        rw [hsecret]
        cases hshared : ep.serverSecret pending with
        | none => exact .of_none rfl rfl hold hnil
        | some shared =>
          dsimp only
          cases hproof : verifyClientProof shared (serverTranscript pending cid) clientProof with
          | false => exact .of_none rfl rfl hold hnil
          | true =>
            rw [if_neg hnot, if_pos rfl]
            have hentry : ∀ (i : ConnectionId) (v : Bytes 32 × SocketAddr × MonotonicTime),
                (cache.insert cid (computeServerProof shared (serverTranscript pending cid), src,
                  now))[i]? = some v → ep.acceptedFinishes[i]? = some v ∨
                  v.1 = computeServerProof shared (serverTranscript pending cid) := by
              intro i v h
              rw [Maps.getElem?_insert] at h
              split at h
              · cases h
                exact Or.inr rfl
              · exact Or.inl (hold i v h)
            unfold acceptConnection
            by_cases hmem : cid ∈ ep.connections
            · rw [if_pos hmem]
              refine ⟨Or.inl ⟨rfl, rfl⟩, ?_, ?_, ?_⟩
              · rintro c ⟨⟩
                exact ⟨rfl, hmem⟩
              · intro i v h
                exact (hentry i v h).imp_right fun h => ⟨_, rfl, h⟩
              · intro o h
                dsimp only at h
                exact ⟨_, _, h, Or.inr ⟨_, rfl, rfl⟩⟩
            · rw [if_neg hmem]
              refine ⟨Or.inr ⟨_, rfl, hmem, rfl, rfl⟩, ?_, ?_, ?_⟩
              · rintro c ⟨⟩
                refine ⟨rfl, ?_⟩
                exact (Maps.mem_insert ep.connections cid cid _).mpr (Or.inl rfl)
              · intro i v h
                exact (hentry i v h).imp_right fun h => ⟨_, rfl, h⟩
              · intro o h
                dsimp only at h
                exact ⟨_, _, h, Or.inr ⟨_, rfl, rfl⟩⟩

omit [KeyExchange] [CryptoSuite] in
/-- What the calls of `connect` work with. -/
def clientSide (ep : GtpEndpoint) : List ConnectCall × Std.ExtTreeMap ConnectionId Nat compare ×
    Std.ExtTreeMap ConnectionId Nat compare × Option (Bytes 32) :=
  (ep.calls, ep.pendingClientHandshakes, ep.pendingServerFinishes, ep.trustedServerStatic)

theorem onHandshakeFinish_clientSide (ep : GtpEndpoint) (cid : ConnectionId) (src : SocketAddr)
    (cookieEcho clientProof : Bytes 32) (now : MonotonicTime) :
    (ep.onHandshakeFinish cid src cookieEcho clientProof now).1.clientSide = ep.clientSide := by
  rw [onHandshakeFinish_eq]
  split
  · rfl
  · dsimp only
    split
    · rfl
    · split
      · rfl
      · split
        · rfl
        · split
          · rfl
          · unfold acceptConnection
            dsimp only
            split <;> rfl

omit [KeyExchange] in
theorem onData_clientSide (ep : GtpEndpoint) (cid : ConnectionId) (src : SocketAddr)
    (datagram : List UInt8) (now : MonotonicTime) :
    (ep.onData cid src datagram now).clientSide = ep.clientSide := by
  unfold onData
  split
  · rfl
  · split
    · rfl
    · dsimp only
      split
      · split <;> rfl
      · split <;> rfl

/-- What a datagram does to the calls: nothing, or it hands a value to the call that waits. -/
theorem onDatagram_clientSide (ep : GtpEndpoint) (src : SocketAddr) (datagram : List UInt8)
    (now : MonotonicTime) (secret nonce : Bytes 32) :
    (ep.onDatagram src datagram now secret nonce).1.clientSide = ep.clientSide ∨
      (∃ cid info, (ep.onDatagram src datagram now secret nonce).1 = ep.onServerHello cid info) ∨
      ∃ cid proof, Carries datagram cid (.serverFinish proof) ∧
        (ep.onDatagram src datagram now secret nonce).1 = ep.onServerFinish cid proof := by
  have h := onDatagram_received ep src datagram now secret nonce
  generalize ep.onDatagram src datagram now secret nonce = r at h ⊢
  cases h with
  | dropped => exact Or.inl rfl
  | clientHello =>
    rename_i cid pk clientNonce version _
    obtain ⟨limiter, pending, heq, -⟩ :=
      ep.onClientHello_spec cid src pk clientNonce version now secret nonce
    rw [heq]
    exact Or.inl rfl
  | serverHello => exact Or.inr (Or.inl ⟨_, _, rfl⟩)
  | handshakeFinish => exact Or.inl (ep.onHandshakeFinish_clientSide ..)
  | serverFinish hcarries => exact Or.inr (Or.inr ⟨_, _, hcarries, rfl⟩)
  | data => exact Or.inl (ep.onData_clientSide ..)

end Receive

/-! ## 3. A call of `connect` -/

section Calls

variable [KeyExchange] [CryptoSuite]

/-- What a step of the call `id` leaves alone. -/
structure Advanced (ep : GtpEndpoint) (id : Nat) (ep' : GtpEndpoint) : Prop where
  calls : ∃ f, ep'.calls = ep.calls.modify id f ∧ ∀ call, (f call).cid = call.cid
  client : ep'.pendingClientHandshakes = ep.pendingClientHandshakes ∨
    ∃ cid, ep'.pendingClientHandshakes = ep.pendingClientHandshakes.erase cid
  finishes : ep'.pendingServerFinishes = ep.pendingServerFinishes ∨
    (∃ cid, ep'.pendingServerFinishes = ep.pendingServerFinishes.erase cid) ∨
    ∃ cid, ep'.pendingServerFinishes = ep.pendingServerFinishes.insert cid id
  pinned : ep'.trustedServerStatic = ep.trustedServerStatic

omit [KeyExchange] [CryptoSuite] in
theorem Advanced.refl (ep : GtpEndpoint) (id : Nat) : Advanced ep id ep :=
  ⟨⟨fun call => call, (List.modify_id id ep.calls).symm, fun _ => rfl⟩, Or.inl rfl, Or.inl rfl, rfl⟩

omit [KeyExchange] [CryptoSuite] in
theorem Advanced.setStage {ep ep' : GtpEndpoint} (id : Nat) (stage : Stage)
    (hcalls : ep'.calls = ep.calls)
    (hclient : ep'.pendingClientHandshakes = ep.pendingClientHandshakes ∨
      ∃ cid, ep'.pendingClientHandshakes = ep.pendingClientHandshakes.erase cid)
    (hfinishes : ep'.pendingServerFinishes = ep.pendingServerFinishes ∨
      (∃ cid, ep'.pendingServerFinishes = ep.pendingServerFinishes.erase cid) ∨
      ∃ cid, ep'.pendingServerFinishes = ep.pendingServerFinishes.insert cid id)
    (hpinned : ep'.trustedServerStatic = ep.trustedServerStatic) :
    Advanced ep id (ep'.setStage id stage) := by
  refine ⟨⟨fun call => { call with stage }, ?_, fun _ => rfl⟩, hclient, hfinishes, hpinned⟩
  rw [← hcalls]
  rfl

theorem advance_advanced (ep : GtpEndpoint) (id : Nat) (call : ConnectCall)
    (failure : Option String) : Advanced ep id (ep.advance id call failure).1 := by
  have hmove : ∀ stage, Advanced ep id (ep.setStage id stage) := fun stage =>
    .setStage id stage rfl (Or.inl rfl) (Or.inl rfl) rfl
  unfold advance
  dsimp only
  split
  · split
    · exact hmove _
    · exact hmove _
  · split
    · exact hmove _
    · split
      · exact hmove _
      · split
        · exact .refl ep id
        · split
          · exact hmove _
          · exact hmove _
  · exact .setStage id _ rfl (Or.inr ⟨_, rfl⟩) (Or.inl rfl) rfl
  · split
    · exact hmove _
    · exact .setStage id _ rfl (Or.inl rfl) (Or.inr (Or.inr ⟨_, rfl⟩)) rfl
  · exact hmove _
  · exact ⟨⟨_, rfl, fun _ => rfl⟩, Or.inl rfl, Or.inl rfl, rfl⟩
  · split
    · split
      · exact hmove _
      · exact hmove _
    · split
      · exact hmove _
      · split
        · exact .refl ep id
        · exact hmove _
  · exact .setStage id _ rfl (Or.inl rfl) (Or.inr (Or.inl ⟨_, rfl⟩)) rfl
  · split
    · exact .setStage id _ rfl (Or.inl rfl) (Or.inr (Or.inl ⟨_, rfl⟩)) rfl
    · exact .setStage id _ rfl (Or.inl rfl) (Or.inr (Or.inl ⟨_, rfl⟩)) rfl
  · exact .refl ep id

/-- An answer that passes the pin and gives a contributory key makes a session: the buffer is large
enough. -/
theorem clientSession_ok {ep : GtpEndpoint} {call : ConnectCall} {info : ServerHelloInfo}
    {shared : HandshakeSharedSecret} (h : ep.clientSecret call.pair info = .ok shared) :
    ∃ finish, ep.clientSession call info = .ok ⟨shared, clientTranscript call info,
        sessionKeys (shared, clientTranscript call info), finish⟩ ∧
      handshakePacket 128 call.cid 1 (.handshakeFinish info.statelessCookie
        (computeClientProof shared (clientTranscript call info))) = .ok finish := by
  obtain ⟨frame, hframe⟩ : ∃ frame, frame = Frame.handshakeFinish info.statelessCookie
      (computeClientProof shared (clientTranscript call info)) := ⟨_, rfl⟩
  have hsize : minLongHeaderLen + frame.needed ≤ 128 := by
    rw [hframe]
    exact (by decide : minLongHeaderLen + (1 + 32 + 32) ≤ 128)
  have hpacket := handshakePacket_eq call.cid 1 hsize (by rw [hframe]; rfl)
  rw [← hframe]
  refine ⟨_, ?_, hpacket⟩
  unfold clientSession
  rw [h]
  -- the buffer is not to be built when the monad is unfolded
  generalize handshakePacket 128 call.cid 1 = packet at hpacket ⊢
  change (packet _ >>= fun _ => _) = _
  rw [← hframe, hpacket]
  rfl

end Calls

end GtpEndpoint

end Gtp
