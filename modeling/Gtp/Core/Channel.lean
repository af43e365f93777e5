/-
# One direction of a session as a channel

What one end seals into its datagrams, and what the other end opens, each as a list of `Sheet`s: a
packet number with the frames under it.  The network repeats, reorders and drops datagrams at will.
But the keys belong to the session and the replay window lets each number in once, so that the
sheets that are opened are some of those that were sealed, each at most once and with the same bytes
(`secure_channel`).

What comes out of these bytes is `Sheet.read`: the frames as the frame iterator of the receiver
finds them.  This is the frames that were put there, unless an `MtuProbe` is among them: a probe is
padded to the end of the datagram, and its decoder takes every frame behind it for padding
(`received`, `Gtp.Core.Transparency`).

What is left out: whether anything arrives at all.  The network of this module may drop every
datagram; it only cannot make one up.  That a datagram under foreign keys does not open is the
hypothesis on the phases of the session (`PhasesSeparate`), not a property of a concrete cipher.
-/
import Gtp.Core.Order
import Gtp.Replay

namespace Gtp

open Frame PacketBuilder

/-! ## 1. The window over a run -/

/-- A fresh window accepts no number twice. -/
theorem ReplayWindow.accepted_new_nodup (pns : List PacketNumber) : (new.accepted pns).Nodup := by
  cases pns with
  | nil => exact List.nodup_nil
  | cons first pns =>
    obtain ⟨hnodup, hfresh⟩ := (tracks_commit_new first).accepted_fresh pns
    have hrun : new.accepted (first :: pns) = first :: (new.commit first).accepted pns := rfl
    rw [hrun]
    exact List.nodup_cons.mpr ⟨fun hmem => hfresh first hmem rfl, hnodup⟩

/-! ## 2. Sheets -/

/-- The content of a datagram. -/
structure Sheet where
  packetNumber : PacketNumber
  frames : List Frame

/-- The content as the peer reads it. -/
def Sheet.read (s : Sheet) : Sheet := ⟨s.packetNumber, received s.frames⟩

namespace GtpConnection

variable [CryptoSuite]

/-- What the call seals, if it hands out a datagram. -/
def sealedIn (c : GtpConnection) : Op → Option Sheet
  | .produce now outBuf =>
    match c.datagramOf (.produce now outBuf) with
    | some _ => (c.draft? now outBuf).map fun d => ⟨c.hot.nextPacketNumber, d.frames⟩
    | none => none
  | _ => none

/-- What a run seals, oldest first. -/
def sealedSheets (c : GtpConnection) : List Op → List Sheet
  | [] => []
  | op :: ops => (c.sealedIn op).toList ++ (c.step op).sealedSheets ops

/-- What the call opens, if its datagram passes every gate. -/
def openedIn (c : GtpConnection) : Op → Option Sheet
  | .handleIncoming _ datagram _ _ =>
    if c.hot.state = .closed then none
    else
      match c.hot.admitHeader datagram with
      | .error _ => none
      | .ok (header, headerConsumed) =>
        match c.hot.openDatagram header (datagram.take headerConsumed)
            (datagram.drop headerConsumed) with
        | .error _ => none
        | .ok payload => some ⟨header.packetNumber, readable (FrameIterator.collect payload)⟩
  | _ => none

/-- What a run opens, oldest first. -/
def openedSheets (c : GtpConnection) : List Op → List Sheet
  | [] => []
  | op :: ops => (c.openedIn op).toList ++ (c.step op).openedSheets ops

theorem Opens.openedIn {c : GtpConnection} {dg : List UInt8} {hd : PacketHeader} {pt : List UInt8}
    (h : c.Opens dg hd pt) (src : SocketAddr) (now : MonotonicTime) (ecn : UInt8) :
    c.openedIn (.handleIncoming src dg now ecn) =
      some ⟨hd.packetNumber, readable (FrameIterator.collect pt)⟩ := by
  obtain ⟨hopen, n, hadm, hpt⟩ := h
  unfold GtpConnection.openedIn
  dsimp only
  rw [if_neg hopen, hadm]
  dsimp only
  rw [hpt]

theorem openedIn_of_not_opens {c : GtpConnection} {dg : List UInt8}
    (h : ∀ hd pt, ¬ c.Opens dg hd pt) (src : SocketAddr) (now : MonotonicTime) (ecn : UInt8) :
    c.openedIn (.handleIncoming src dg now ecn) = none := by
  unfold openedIn
  dsimp only
  split
  · rfl
  · rename_i hopen
    split
    · rfl
    · rename_i hd n hadm
      split
      · rfl
      · rename_i pt hpt
        exact absurd ⟨hopen, n, hadm, hpt⟩ (h hd pt)

/-- What is opened comes from a datagram that opens. -/
theorem opens_of_openedIn {c : GtpConnection} {op : Op} {s : Sheet} (h : c.openedIn op = some s) :
    ∃ src dg now ecn hd pt, op = .handleIncoming src dg now ecn ∧ c.Opens dg hd pt ∧
      s = ⟨hd.packetNumber, readable (FrameIterator.collect pt)⟩ := by
  cases op with
  | handleIncoming src dg now ecn =>
    by_cases hopen : ∃ hd pt, c.Opens dg hd pt
    · obtain ⟨hd, pt, hopen⟩ := hopen
      rw [hopen.openedIn] at h
      exact ⟨src, dg, now, ecn, hd, pt, rfl, hopen, (Option.some.inj h).symm⟩
    · rw [openedIn_of_not_opens fun hd pt hop => hopen ⟨hd, pt, hop⟩] at h
      cases h
  | _ => cases h

/-! ## 3. Each number once -/

/-- A call commits the number of what it opens, and no other. -/
theorem step_replayWindow (c : GtpConnection) (op : Op) :
    (c.step op).hot.replayWindow = (c.openedIn op).elim c.hot.replayWindow fun s =>
      c.hot.replayWindow.commit s.packetNumber := by
  have hmoves := c.step_moves op
  generalize c.step op = c' at hmoves
  cases hmoves with
  | quiet ctrls hquiet hctrls hlink hdel hwin =>
    cases op with
    | handleIncoming => cases hquiet
    | _ => exact hwin
  | ignored hopen hhot =>
    rw [openedIn_of_not_opens hopen, hhot]
    rfl
  | received hopen hrec =>
    rw [hopen.openedIn]
    exact hrec.replayWindow
  | silent hnone hlink hdel hwin => exact hwin
  | transmitted hsome htrans => exact htrans.replayWindow
  | ratcheted hlink hdel hwin => exact hwin
  | announced hlink hdel hwin => exact hwin

/-- The number of what is opened passes the window. -/
theorem check_of_openedIn {c : GtpConnection} {op : Op} {s : Sheet} (h : c.openedIn op = some s) :
    c.hot.replayWindow.check s.packetNumber = .ok () := by
  obtain ⟨src, dg, now, ecn, hd, pt, -, ⟨-, n, hadm, -⟩, rfl⟩ := opens_of_openedIn h
  exact (ConnectionHot.admitHeader_ok hadm).2.2

/-- **The numbers of a run** are accepted one after the other. -/
theorem accepted_openedSheets (c : GtpConnection) (ops : List Op) :
    c.hot.replayWindow.accepted ((c.openedSheets ops).map Sheet.packetNumber) =
      (c.openedSheets ops).map Sheet.packetNumber := by
  induction ops generalizing c with
  | nil => rfl
  | cons op ops ih =>
    have hwin := c.step_replayWindow op
    have hrest := ih (c.step op)
    rw [openedSheets]
    cases hop : c.openedIn op with
    | none =>
      rw [hop] at hwin
      rw [hwin] at hrest
      exact hrest
    | some s =>
      rw [hop] at hwin
      rw [hwin] at hrest
      have hcheck := check_of_openedIn hop
      rw [Option.toList_some, List.singleton_append, List.map_cons, ReplayWindow.accepted,
        ReplayWindow.checkAndUpdate, hcheck]
      exact congrArg (s.packetNumber :: ·) hrest

theorem openedSheets_nodup {c : GtpConnection} (h : c.hot.replayWindow = .new) (ops : List Op) :
    ((c.openedSheets ops).map Sheet.packetNumber).Nodup := by
  have hacc := c.accepted_openedSheets ops
  rw [h] at hacc
  rw [← hacc]
  exact ReplayWindow.accepted_new_nodup _

/-! ## 4. What is sealed -/

/-- The datagram seals the sheet, in a phase below `bound`. -/
structure Seals (base : Bytes 32 × Bytes 12) (cid : ConnectionId) (bound : Nat) (s : Sheet)
    (dg : List UInt8) : Prop where
  exists_phase : ∃ phase < bound, ∃ hd, Sealed (protectorAt base cid phase) hd
    (payloadOf s.frames) dg ∧ hd.connectionId = cid ∧ hd.packetNumber = s.packetNumber
  sendable : ∀ f ∈ s.frames, Sendable f

theorem Seals.mono {base : Bytes 32 × Bytes 12} {cid : ConnectionId} {bound bound' : Nat}
    {s : Sheet} {dg : List UInt8} (h : Seals base cid bound s dg) (hbound : bound ≤ bound') :
    Seals base cid bound' s dg := by
  obtain ⟨phase, hphase, hsealed⟩ := h.exists_phase
  exact ⟨⟨phase, Nat.lt_of_lt_of_le hphase hbound, hsealed⟩, h.sendable⟩

/-- A datagram that is handed out seals the frames of its draft. -/
theorem datagramOf_sealedIn {c : GtpConnection} {op : Op} {dest : SocketAddr} {dg : List UInt8}
    (hout : c.datagramOf op = some (dest, dg)) :
    ∃ s hd, c.sealedIn op = some s ∧ Sealed c.hot.txProtector hd (payloadOf s.frames) dg ∧
      hd.connectionId = c.hot.connectionId ∧ hd.packetNumber = s.packetNumber ∧
      ∀ f ∈ s.frames, Sendable f := by
  cases op with
  | produce now outBuf =>
    have hsealed : c.sealedIn (.produce now outBuf) =
        (c.draft? now outBuf).map fun d => ⟨c.hot.nextPacketNumber, d.frames⟩ := by
      rw [sealedIn, hout]
    rw [hsealed]
    rw [datagramOf] at hout
    split at hout
    · rename_i dest' len hsome
      obtain ⟨rfl, rfl⟩ := Prod.mk.inj (Option.some.inj hout)
      obtain ⟨b, hb, -, d, c2, hdc, hseal, -, -, -⟩ := produce_some hsome
      obtain ⟨hcar, -, -⟩ := new_nextHeader hb
      have hass := (c.prepare now).assemble_spec hcar now
      rw [hdc] at hass
      dsimp only at hass
      obtain ⟨ld, cc, s, pv, pac, cold, ev, hprep, -⟩ := c.prepare_spec now
      have hcid : (nextHeader (c.prepare now).hot now).connectionId = c2.hot.connectionId := by
        rw [hass.conn]
        rfl
      have hpn : (nextHeader (c.prepare now).hot now).packetNumber = c2.hot.nextPacketNumber := by
        rw [hass.conn]
        rfl
      obtain ⟨hd, halike, hsealed, -⟩ := sealDraft_spec hass.carries hcid hpn hseal
      have hkeys : c2.hot.txProtector = c.hot.txProtector := by rw [hass.conn, hprep]
      refine ⟨⟨c.hot.nextPacketNumber, d.frames⟩, hd, ?_, hkeys ▸ hsealed, ?_, ?_,
        hass.carries.sendable⟩
      · rw [draft?, hb]
        dsimp only
        rw [hdc]
        rfl
      · rw [halike.connectionId, hprep]
        rfl
      · rw [halike.packetNumber, hprep]
        rfl
    · cases hout
  | _ => cases hout

/-- A call that seals nothing hands out nothing. -/
theorem unsent_of_sealedIn {c : GtpConnection} {now : MonotonicTime} {outBuf : List UInt8}
    (h : c.sealedIn (.produce now outBuf) = none) (dest : SocketAddr) (len : Nat) :
    (c.produceOutgoingDatagram now outBuf).result ≠ .ok (some (dest, len)) := by
  intro hres
  have hout : c.datagramOf (.produce now outBuf) =
      some (dest, (c.produceOutgoingDatagram now outBuf).buf.take len) := by
    simp only [datagramOf, hres]
  obtain ⟨s, hd, hs, -⟩ := datagramOf_sealedIn hout
  rw [h] at hs
  cases hs

/-- **Every datagram of a run** seals a sheet of the run. -/
theorem handedOut_seals {tx rx : Bytes 32 × Bytes 12} {cid : ConnectionId} (ops : List Op)
    {c : GtpConnection} (hkeys : Keyed tx rx cid c) {dg : List UInt8} (hdg : dg ∈ c.handedOut ops) :
    ∃ s ∈ c.sealedSheets ops, Seals tx cid (c.hot.keyPhaseCounter + ops.length) s dg := by
  induction ops generalizing c with
  | nil => cases hdg
  | cons op ops ih =>
    rw [handedOut] at hdg
    rw [sealedSheets]
    rcases List.mem_append.mp hdg with hdg | hdg
    · obtain ⟨⟨dest, dg'⟩, hout, rfl⟩ := List.mem_map.mp hdg
      obtain ⟨s, hd, hs, hseal, hcid, hpn, hsendable⟩ :=
        datagramOf_sealedIn (Option.mem_toList.mp hout)
      rw [hkeys.2.txProtector] at hseal
      refine ⟨s, ?_, ⟨⟨c.hot.keyPhaseCounter, ?_, hd, hseal, hcid.trans hkeys.1, hpn⟩, hsendable⟩⟩
      · rw [hs]
        exact List.mem_append_left _ (List.mem_singleton_self s)
      · exact Nat.lt_add_of_pos_right (Nat.succ_pos _)
    · obtain ⟨s, hs, hseal⟩ := ih (hkeys.step op) hdg
      have hcounter := c.step_counter op
      refine ⟨s, List.mem_append_right _ hs, hseal.mono ?_⟩
      rw [List.length_cons]
      omega

/-- **What opens** is what was sealed. -/
theorem Opens.sheet (hround : CryptoSuite.RoundTrips) {base tx : Bytes 32 × Bytes 12}
    {cid : ConnectionId} (hsep : Net.PhasesSeparate base cid) {bound : Nat}
    (hbound : bound ≤ 2 ^ 64) {c : GtpConnection} (hkeys : Keyed tx base cid c)
    (hcounter : c.hot.keyPhaseCounter < 2 ^ 64) {dg : List UInt8} {s : Sheet}
    (hdg : Seals base cid bound s dg) {hd : PacketHeader} {pt : List UInt8}
    (hopen : c.Opens dg hd pt) :
    (⟨hd.packetNumber, readable (FrameIterator.collect pt)⟩ : Sheet) = s.read := by
  obtain ⟨⟨phase, hphase, hd', hseal, hcid, hpn⟩, hsendable⟩ := hdg
  obtain ⟨-, m, hadm, hdec⟩ := hopen
  obtain ⟨hheader, -, -⟩ := ConnectionHot.admitHeader_ok hadm
  rw [hseal.decode] at hheader
  obtain ⟨rfl, rfl⟩ := Prod.mk.inj (Except.ok.inj hheader)
  obtain ⟨p, hp, hpay⟩ := ConnectionHot.openDatagram_ok hdec
  obtain ⟨j, hj, rfl⟩ : ∃ j, j < 2 ^ 64 ∧ p = protectorAt base cid j := by
    rcases hp with rfl | hp
    · exact ⟨_, hcounter, hkeys.2.rxProtector⟩
    · obtain ⟨j, hj, rfl⟩ := hkeys.2.previous p hp
      exact ⟨j, by omega, rfl⟩
  obtain ⟨-, rfl⟩ := Net.sealed_opens hround hsep (Nat.lt_of_lt_of_le hphase hbound) hj hseal hcid
    hpay
  rw [Net.readable_collect hsendable, hpn]
  rfl

/-- **What a run opens**, when every datagram that it gets seals one of the sheets. -/
theorem openedSheets_subset (hround : CryptoSuite.RoundTrips) {base tx : Bytes 32 × Bytes 12}
    {cid : ConnectionId} (hsep : Net.PhasesSeparate base cid) {bound : Nat}
    (hbound : bound ≤ 2 ^ 64) {sheets : List Sheet} (ops : List Op)
    (hops : ∀ src dg now ecn, .handleIncoming src dg now ecn ∈ ops →
      ∃ s ∈ sheets, Seals base cid bound s dg)
    {c : GtpConnection} (hkeys : Keyed tx base cid c)
    (hcounter : c.hot.keyPhaseCounter + ops.length < 2 ^ 64) :
    c.openedSheets ops ⊆ sheets.map Sheet.read := by
  induction ops generalizing c with
  | nil => exact List.nil_subset _
  | cons op ops ih =>
    rw [List.length_cons] at hcounter
    have hstep := c.step_counter op
    have hrest := ih (fun src dg now ecn hmem => hops src dg now ecn (List.mem_cons_of_mem _ hmem))
      (hkeys.step op) (by omega)
    intro s hs
    rcases List.mem_append.mp hs with hs | hs
    · obtain ⟨src, dg, now, ecn, hd, pt, rfl, hopen, rfl⟩ :=
        opens_of_openedIn (Option.mem_toList.mp hs)
      obtain ⟨s, hs, hseal⟩ := hops src dg now ecn List.mem_cons_self
      rw [hopen.sheet hround hsep hbound hkeys (by omega) hseal]
      exact List.mem_map_of_mem hs
    · exact hrest hs

/-! ## 5. Every session -/

/-- One direction of a session: the datagrams that the end `!x` gets were handed out by the end
`x`. -/
theorem opened_subperm_sealed (hround : CryptoSuite.RoundTrips) (s : Net.Session) (x : Bool)
    (hsep : Net.PhasesSeparate (s.base x) s.cid) (sends receives : List Op)
    (hsends : sends.length < 2 ^ 64) (hreceives : receives.length < 2 ^ 64)
    (hwire : ∀ src dg now ecn, .handleIncoming src dg now ecn ∈ receives →
      dg ∈ (s.setup x).start.handedOut sends) :
    ((s.setup (!x)).start.openedSheets receives).Subperm
      (((s.setup x).start.sealedSheets sends).map Sheet.read) := by
  have hbase : (s.keys.forRole (!x)).2 = s.base x := by cases x <;> rfl
  have hphase : ∀ y, (s.setup y).start.hot.keyPhaseCounter = 0 := fun y => rfl
  have hkeys : Keyed (s.keys.forRole (!x)).1 (s.base x) s.cid (s.setup (!x)).start := by
    rw [← hbase]
    exact (s.setup (!x)).start_keyed
  have hnodup : ((s.setup (!x)).start.openedSheets receives).Nodup :=
    (openedSheets_nodup rfl receives).of_map
  refine List.subperm_of_subset hnodup ?_
  refine openedSheets_subset hround hsep (by omega : sends.length ≤ 2 ^ 64) receives ?_ hkeys
    (by rw [hphase]; omega)
  intro src dg now ecn hmem
  have hseals := handedOut_seals sends (s.setup x).start_keyed (hwire src dg now ecn hmem)
  rw [hphase, Nat.zero_add] at hseals
  exact hseals

/-- **A session is a secure channel.**  Let one end make any calls, and let the other end make any
calls and get any of the datagrams that the first one hands out, each as often as the network likes
and in any order.  Then what it opens is, up to order and loss, part of what was sealed: no number
is opened twice, and under each number it reads what the frame iterator reads of the frames that
were put there.  Behind an `MtuProbe` that is less than all of them. -/
theorem secure_channel (hround : CryptoSuite.RoundTrips) (s : Net.Session) (x : Bool)
    (hsep : Net.PhasesSeparate (s.base x) s.cid) (sends receives : List Op)
    (hsends : sends.length < 2 ^ 64) (hreceives : receives.length < 2 ^ 64)
    (hwire : ∀ src dg now ecn, .handleIncoming src dg now ecn ∈ receives →
      dg ∈ (s.setup x).start.handedOut sends) :
    (((s.setup (!x)).start.openedSheets receives).map Sheet.packetNumber).Nodup ∧
      ((s.setup (!x)).start.openedSheets receives).Subperm
        (((s.setup x).start.sealedSheets sends).map Sheet.read) :=
  ⟨openedSheets_nodup rfl receives,
    opened_subperm_sealed hround s x hsep sends receives hsends hreceives hwire⟩

end GtpConnection

/-! ## 6. On a concrete session -/

namespace GtpConnection

attribute [local instance] keyTagSuite

/-- The theorem at a session where every datagram arrives twice, the second one first. -/
theorem secure_channel_swapped :
    ((Net.sampleSession.setup false).start.openedSheets (swapped ++ swapped)).map
        Sheet.packetNumber = [2, 1] ∧
      ((Net.sampleSession.setup false).start.openedSheets (swapped ++ swapped)).Subperm
        (((Net.sampleSession.setup true).start.sealedSheets twoMoves).map Sheet.read) := by
  refine ⟨by decide +kernel, (secure_channel keyTagSuite_roundTrips Net.sampleSession true
    (Net.sampleSession_separates true) twoMoves (swapped ++ swapped) (by decide) (by decide +kernel)
    ?_).2⟩
  intro src dg now ecn hmem
  have hmem' : Op.handleIncoming src dg now ecn ∈ swapped := by simpa using hmem
  obtain ⟨dg', hdg', heq⟩ := List.mem_map.mp hmem'
  obtain ⟨rfl, rfl, rfl, rfl⟩ := Op.handleIncoming.inj heq
  exact List.mem_reverse.mp hdg'

end GtpConnection

end Gtp
