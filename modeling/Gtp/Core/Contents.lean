/-
# What one datagram contains

A datagram is filled in three stages: the ACK that is due, the front part of the control queue, and
items of the scheduler.  Each stage is a function of the state the call finds, and so is the sum of
the bytes, `plannedBytes`; `assemble_planned` says that the draft goes by this plan.

Three properties of datagrams come down to it.

* Whether there is room left for the tag: `produce_ok_iff`, in terms of the plan.  What that means
  for the queues is in `Gtp.Core.Budget`.
* Whether there is any frame at all: `frames_of_sent_iff`.  A frame that is larger than the datagram
  keeps the gate open and does not get in, so an empty datagram leaves (`empty_datagram_sent`).
* What travels with a frame that is directed to another address than the active path:
  `directed_alone_iff`.  The frames in front of it in the queue travel along
  (`ping_leaves_with_challenge`).

A call that hands out nothing is not the subject of the last two.  The plan is recomputed from the
state right before the draft, behind the probe timeout and the pruning of the same call.
-/
import Gtp.Core.TxLoop
import Gtp.Core.KeyChain

namespace Gtp

open Frame PacketBuilder

theorem length_payloadOf (fs : List Frame) : (payloadOf fs).length = (fs.map needed).sum := by
  induction fs with
  | nil => rfl
  | cons f fs ih =>
    rw [payloadOf_cons, List.length_append, length_bytes, ih]
    rfl

namespace GtpConnection

/-! ## 1. The data loop, on the scheduler alone -/

/-- The item's frame goes into `room` bytes. -/
def itemFits (item : SchedulableItem) (room : Nat) : Bool :=
  decide ((itemFrame item).needed ≤ room) && !(itemFrame item).oversize

/-- What the data loop takes out of a scheduler, with the scheduler it leaves and the number of
items that it could not put back. -/
def takeItems (budget : Nat) (now : MonotonicTime) :
    Nat → Nat → GameScheduler → List SchedulableItem × GameScheduler × Nat
  | 0, _, s => ([], s, 0)
  | fuel + 1, room, s =>
    if 64 < room then
      match s.popNext (min budget room) now with
      | (none, s) => ([], s, 0)
      | (some item, s) =>
        if itemFits item room then
          let (items, s, dropped) :=
            takeItems budget now fuel (room - (itemFrame item).needed) s
          (item :: items, s, dropped)
        else
          match s.requeue item now with
          | (.ok (), s) => ([], s, 0)
          | (.error _, s) => ([], s, 1)
    else ([], s, 0)

/-- **The data loop** takes what `takeItems` says. -/
theorem fillData_takes (budget : Nat) (now : MonotonicTime) {header : PacketHeader} (fuel : Nat)
    (d : Draft) (c : GtpConnection) (h : d.builder.Carries header d.frames)
    (hdest : d.overrideDest = none) :
    let t := takeItems budget now fuel d.builder.remainingCapacity c.hot.scheduler
    let r := fillData budget now fuel d c
    r.1.popped = d.popped ++ t.1 ∧ r.2.hot.scheduler = t.2.1 ∧
      r.2.cold.totalDroppedFrames = c.cold.totalDroppedFrames + t.2.2 := by
  induction fuel generalizing d c with
  | zero => exact ⟨(List.append_nil _).symm, rfl, rfl⟩
  | succ fuel ih =>
    dsimp only
    rw [fillData, takeItems]
    by_cases hroom : 64 < d.builder.remainingCapacity
    · rw [if_pos hroom, if_pos ⟨hroom, by rw [hdest]; rfl⟩]
      rcases c.hot.scheduler.popNext (min budget d.builder.remainingCapacity) now with ⟨front, s⟩
      cases front with
      | none => exact ⟨(List.append_nil _).symm, rfl, rfl⟩
      | some item =>
        dsimp only
        by_cases hfit : d.builder.Fits (itemFrame item)
        · have hfits : itemFits item d.builder.remainingCapacity = true := by
            rw [itemFits, hfit.2, decide_eq_true hfit.1]
            rfl
          obtain ⟨b, happ, hc, -, hcap⟩ := appendFrame_fits h hfit (itemFrame_ne_padding item)
          rw [happ, if_pos hfits]
          dsimp only
          obtain ⟨hpop, hsched, hdrop⟩ :=
            ih { d with builder := b, popped := d.popped ++ [item] } { c with hot.scheduler := s }
              (Draft.carries_push hc) hdest
          simp only [hcap] at hpop hsched hdrop
          refine ⟨?_, hsched, hdrop⟩
          rw [hpop, List.append_assoc, List.singleton_append]
        · have hfits : ¬ itemFits item d.builder.remainingCapacity = true := by
            rw [itemFits, Bool.and_eq_true, decide_eq_true_eq, Bool.not_eq_true']
            exact hfit
          obtain ⟨e, b, happ, -⟩ := appendFrame_not_fits h hfit
          rw [happ, if_neg hfits]
          dsimp only
          rcases s.requeue item now with ⟨res, s'⟩
          cases res <;> exact ⟨(List.append_nil _).symm, rfl, rfl⟩
    · rw [if_neg hroom, if_neg fun hand => hroom hand.1]
      exact ⟨(List.append_nil _).symm, rfl, rfl⟩

/-! ## 2. The plan -/

/-- The control frames of the next datagram, of `room` bytes. -/
def plannedControls (c : GtpConnection) (room : Nat) (now : MonotonicTime) :
    List OutgoingControlFrame :=
  fitting c.hot.activePath (room - c.ackBytes room now) c.hot.controlQueue

/-- The bytes that are left for items. -/
def dataRoom (c : GtpConnection) (room : Nat) (now : MonotonicTime) : Nat :=
  room - c.ackBytes room now - controlBytes (c.plannedControls room now)

/-- Items join: the connection is established and no directed frame claims the datagram. -/
def takesData (c : GtpConnection) (room : Nat) (now : MonotonicTime) : Bool :=
  decide (c.hot.state = .established) &&
    (claim c.hot.activePath (room - c.ackBytes room now) c.hot.controlQueue).isNone

/-- The items of the next datagram, with the scheduler they leave. -/
def plannedItems (c : GtpConnection) (room : Nat) (now : MonotonicTime) :
    List SchedulableItem × GameScheduler × Nat :=
  if c.takesData room now then
    takeItems c.sendBudget now (c.dataRoom room now) (c.dataRoom room now) c.hot.scheduler
  else ([], c.hot.scheduler, 0)

/-- The bytes of the frames of the next datagram. -/
def plannedBytes (c : GtpConnection) (room : Nat) (now : MonotonicTime) : Nat :=
  c.ackBytes room now + controlBytes (c.plannedControls room now) +
    ((c.plannedItems room now).1.map fun item => (itemFrame item).needed).sum

/-- **The draft goes by the plan.** -/
theorem assemble_planned (c : GtpConnection) {b : PacketBuilder} {header : PacketHeader}
    (h : b.Carries header []) (now : MonotonicTime) :
    let d := (c.assemble b now).1
    let c2 := (c.assemble b now).2
    let room := b.remainingCapacity
    d.drained = c.plannedControls room now ∧ d.popped = (c.plannedItems room now).1 ∧
      c2.hot.scheduler = (c.plannedItems room now).2.1 ∧
      c2.cold.totalDroppedFrames = c.cold.totalDroppedFrames + (c.plannedItems room now).2.2 ∧
      d.builder.payloadLen = c.plannedBytes room now := by
  dsimp only
  have hass := c.assemble_spec h now
  have hctl := c.controlRoom_eq h now
  obtain ⟨hcar, -, hcap⟩ := c.appendAck_spec h now
  have hbytes := c.appendAck_bytes h now
  have hdrained : (c.assemble b now).1.drained = c.plannedControls b.remainingCapacity now := by
    rw [hass.drained, hctl]
    rfl
  have hitems : (c.assemble b now).1.popped = (c.plannedItems b.remainingCapacity now).1 ∧
      (c.assemble b now).2.hot.scheduler = (c.plannedItems b.remainingCapacity now).2.1 ∧
      (c.assemble b now).2.cold.totalDroppedFrames =
        c.cold.totalDroppedFrames + (c.plannedItems b.remainingCapacity now).2.2 := by
    rw [hbytes] at hcap
    rcases hack : c.appendAck b now with ⟨ack, b1⟩
    rw [hack] at hcar hcap
    dsimp only at hcar hcap
    have hcar' : (⟨b1, ack, [], none, []⟩ : Draft).builder.Carries header
        (Draft.frames ⟨b1, ack, [], none, []⟩) := by
      simpa [Draft.frames] using hcar
    obtain ⟨-, -, -, hpop, hc2, -, hleft, hov⟩ :=
      drainControls_spec c.hot.activePath c.hot.controlQueue _ hcar' rfl rfl
    rcases hdrain : drainControls c.hot.activePath ⟨b1, ack, [], none, []⟩ c.hot.controlQueue with
      ⟨d, rest⟩
    rw [hdrain] at hpop hc2 hleft hov
    dsimp only at hpop hc2 hleft hov
    rw [hcap] at hleft hov
    have heq : c.assemble b now = if c.hot.state = .established then
        fillData c.sendBudget now d.builder.remainingCapacity d { c with hot.controlQueue := rest }
        else (d, { c with hot.controlQueue := rest }) := by
      rw [assemble, hack]
      simp only [hdrain]
    rw [heq, plannedItems, takesData, ← hov]
    by_cases hest : c.hot.state = .established
    · rw [if_pos hest, decide_eq_true hest, Bool.true_and]
      cases hdest : d.overrideDest with
      | none =>
        obtain ⟨htake, hsched, hdrop⟩ := fillData_takes c.sendBudget now
          d.builder.remainingCapacity d { c with hot.controlQueue := rest } hc2 hdest
        rw [hpop, List.nil_append] at htake
        have hroom : c.dataRoom b.remainingCapacity now = d.builder.remainingCapacity := hleft.symm
        rw [Option.isNone_none, if_pos rfl, hroom]
        exact ⟨htake, hsched, hdrop⟩
      | some dest =>
        rw [Option.isNone_some, if_neg Bool.false_ne_true]
        have hstop : ∀ fuel, fillData c.sendBudget now fuel d
            { c with hot.controlQueue := rest } = (d, { c with hot.controlQueue := rest }) := by
          intro fuel
          cases fuel with
          | zero => rfl
          | succ fuel =>
            rw [fillData, if_neg]
            rintro ⟨-, hnone⟩
            rw [hdest] at hnone
            cases hnone
        rw [hstop]
        exact ⟨hpop, rfl, rfl⟩
    · rw [if_neg hest, decide_eq_false hest, Bool.false_and, if_neg Bool.false_ne_true]
      exact ⟨hpop, rfl, rfl⟩
  refine ⟨hdrained, hitems.1, hitems.2.1, hitems.2.2, ?_⟩
  have hackBytes : ((c.assemble b now).1.ack.toList.map needed).sum =
      c.ackBytes b.remainingCapacity now := by
    rw [← hbytes, ← hass.ack]
    cases (c.assemble b now).1.ack with
    | none => rfl
    | some f => exact Nat.add_zero _
  rw [← hass.carries.payloadLen, length_payloadOf, Draft.frames, List.map_append, List.map_append,
    List.sum_append, List.sum_append, hackBytes, hdrained, hitems.1, plannedBytes, controlBytes,
    List.map_map, List.map_map]
  rfl

/-! ## 3. The call -/

/-- The call gets as far as a draft. -/
def builds (c : GtpConnection) (now : MonotonicTime) : Prop :=
  c.hot.state ≠ .closed ∧ ¬ (c.hot.state = .draining ∧ c.hot.controlQueue.isEmpty = true) ∧
    (c.prepare now).idle now = false

variable [CryptoSuite]

/-- A call that gets as far as a draft launches it. -/
theorem produce_of_builds {c : GtpConnection} {now : MonotonicTime} {outBuf : List UInt8}
    (h : c.builds now) (hlen : minCommonHeaderLen ≤ outBuf.length) :
    ∃ b, PacketBuilder.new outBuf (nextHeader (c.prepare now).hot now) = .ok b ∧
      c.produceOutgoingDatagram now outBuf = ((c.prepare now).assemble b now).2.launch
        ((c.prepare now).assemble b now).1 now := by
  obtain ⟨hopen, hdrain, hidle⟩ := h
  obtain ⟨b, hb⟩ := new_nextHeader_ok (c.prepare now).hot now hlen
  have hprep : (c.checkPto now).housekeeping now = c.prepare now := rfl
  refine ⟨b, hb, ?_⟩
  rw [produceOutgoingDatagram, if_neg hopen, if_neg hdrain, hprep]
  dsimp only
  rw [hidle, if_neg Bool.false_ne_true, hb]

/-- A call that does not returns no datagram, and no error. -/
theorem produce_of_not_builds {c : GtpConnection} {now : MonotonicTime} (h : ¬ c.builds now)
    (outBuf : List UInt8) : (c.produceOutgoingDatagram now outBuf).result = .ok none := by
  have hprep : (c.checkPto now).housekeeping now = c.prepare now := rfl
  rw [produceOutgoingDatagram, hprep]
  split
  · rfl
  · rename_i hopen
    split
    · rfl
    · rename_i hdrain
      dsimp only
      split
      · rfl
      · rename_i hidle
        exact absurd ⟨hopen, hdrain, Bool.eq_false_iff.mpr hidle⟩ h

/-! ## 4. Room for the tag -/

omit [CryptoSuite] in
/-- The buffer of `spawn_tx_loop`. -/
def txBufferLen : Nat := 1500

/-- A connection seals with a protector that is bound to its own id. -/
theorem Reachable.binding {c : GtpConnection} (h : Reachable c) :
    c.hot.txProtector.checkBinding c.hot.connectionId = .ok () := by
  obtain ⟨s, ops, rfl⟩ := h
  obtain ⟨hcid, hkeys⟩ := s.start_keyed.run ops
  rw [hkeys.txProtector, hcid]
  exact if_neg (not_not.mpr rfl)

/-- A draft is refused exactly when its frames reach into the last 16 bytes. -/
theorem launch_error_iff (hsuite : ∀ key nonce aad pt, pt.length ≤ 65535 →
      (CryptoSuite.encrypt key nonce aad pt).isSome) {c : GtpConnection} {d : Draft}
    {header : PacketHeader} (hb : d.builder.Carries header d.frames)
    (hbind : c.hot.txProtector.checkBinding c.hot.connectionId = .ok ())
    (hcid : header.connectionId = c.hot.connectionId)
    (hpn : header.packetNumber = c.hot.nextPacketNumber) (hlen : d.builder.buf.length ≤ 65535)
    (now : MonotonicTime) :
    (∀ e, (c.launch d now).result ≠ .error e) ↔
      minCommonHeaderLen + d.builder.payloadLen + aeadTagLen ≤ d.builder.buf.length := by
  constructor
  · intro hok
    unfold launch at hok
    rcases hseal : sealDraft c.hot c.hot.nextPacketNumber d.builder with ⟨res, buf⟩
    rw [hseal] at hok
    cases res with
    | error e => exact absurd rfl (hok e)
    | ok len =>
      obtain ⟨hd, -, -, hlength, hle, hbuf⟩ := sealDraft_spec hb hcid hpn hseal
      rw [← hb.payloadLen, ← hlength, ← hbuf]
      exact hle
  · intro hroom e
    obtain ⟨len, buf, hseal⟩ := sealDraft_ok hsuite hb hbind hroom (by omega) c.hot.nextPacketNumber
    rw [launch, hseal]
    dsimp only
    split <;> exact fun h => by cases h

/-- In every reachable state a call with the runtime's buffer returns no error exactly when the
frames that the plan puts into the datagram leave the last 16 bytes free. -/
theorem produce_ok_iff (hsuite : ∀ key nonce aad pt, pt.length ≤ 65535 →
      (CryptoSuite.encrypt key nonce aad pt).isSome) {c : GtpConnection} (hc : Reachable c)
    (now : MonotonicTime) {outBuf : List UInt8} (hlen : outBuf.length = txBufferLen) :
    (∀ e, (c.produceOutgoingDatagram now outBuf).result ≠ .error e) ↔
      (c.builds now → minCommonHeaderLen +
        (c.prepare now).plannedBytes (txBufferLen - minCommonHeaderLen) now + aeadTagLen ≤
          txBufferLen) := by
  by_cases hbuilds : c.builds now
  · have hroom : minCommonHeaderLen ≤ outBuf.length := by
      rw [hlen]
      decide
    obtain ⟨b, hb, hproduce⟩ := produce_of_builds hbuilds hroom
    obtain ⟨hcar, hbuf, hcap⟩ := new_nextHeader hb
    have hass := (c.prepare now).assemble_spec hcar now
    obtain ⟨-, -, -, -, hplan⟩ := (c.prepare now).assemble_planned hcar now
    rw [hcap, hlen] at hplan
    obtain ⟨ld, cc, s, pv, pac, cold, ev, hprep, -⟩ := c.prepare_spec now
    have hbind : ((c.prepare now).assemble b now).2.hot.txProtector.checkBinding
        ((c.prepare now).assemble b now).2.hot.connectionId = .ok () := by
      rw [hass.conn, hprep]
      exact hc.binding
    have hbuflen : ((c.prepare now).assemble b now).1.builder.buf.length = txBufferLen := by
      rw [hass.bufLength, hbuf, hlen]
    have hiff := launch_error_iff hsuite hass.carries hbind (by rw [hass.conn]; rfl)
      (by rw [hass.conn]; rfl) (by rw [hbuflen]; decide) now
    rw [hproduce, hiff, hplan, hbuflen]
    exact ⟨fun h _ => h, fun h => h hbuilds⟩
  · have hnone := produce_of_not_builds hbuilds outBuf
    refine ⟨fun _ h => absurd h hbuilds, fun _ e => ?_⟩
    rw [hnone]
    exact fun h => by cases h

/-! ## 5. At least one frame -/

omit [CryptoSuite] in
/-- The draft that the call assembles, when it gets so far. -/
def draft? (c : GtpConnection) (now : MonotonicTime) (outBuf : List UInt8) : Option Draft :=
  match PacketBuilder.new outBuf (nextHeader (c.prepare now).hot now) with
  | .ok b => some ((c.prepare now).assemble b now).1
  | .error _ => none

/-- A datagram that is handed out seals the frames of the draft. -/
theorem produce_draft {c : GtpConnection} {now : MonotonicTime} {outBuf : List UInt8}
    {dest : SocketAddr} {len : Nat}
    (h : (c.produceOutgoingDatagram now outBuf).result = .ok (some (dest, len))) :
    ∃ b hd, b.Carries (nextHeader (c.prepare now).hot now) [] ∧
      b.remainingCapacity = outBuf.length - minCommonHeaderLen ∧
      c.draft? now outBuf = some ((c.prepare now).assemble b now).1 ∧
      dest = ((c.prepare now).assemble b now).1.overrideDest.getD c.hot.activePath ∧
      Sealed c.hot.txProtector hd (payloadOf ((c.prepare now).assemble b now).1.frames)
        ((c.produceOutgoingDatagram now outBuf).buf.take len) := by
  obtain ⟨b, hb, -, d, c2, hdc, hseal, -, hdest, -⟩ := produce_some h
  obtain ⟨hcar, -, hcap⟩ := new_nextHeader hb
  have hass := (c.prepare now).assemble_spec hcar now
  rw [hdc] at hass
  dsimp only at hass
  obtain ⟨ld, cc, s, pv, pac, cold, ev, hprep, -⟩ := c.prepare_spec now
  have hpath : c2.hot.activePath = c.hot.activePath := by
    rw [hass.conn, hprep]
  have hkey : c2.hot.txProtector = c.hot.txProtector := by
    rw [hass.conn, hprep]
  obtain ⟨hd, -, hsealed, -⟩ := sealDraft_spec hass.carries (by rw [hass.conn]; rfl)
    (by rw [hass.conn]; rfl) hseal
  rw [hkey] at hsealed
  refine ⟨b, hd, hcar, hcap, ?_, ?_, ?_⟩
  · rw [draft?, hb]
  · rw [hdc, hdest, hpath]
  · rw [hdc]
    exact hsealed

omit [CryptoSuite] in
/-- There is something that fits: the due ACK, the first control frame, or an item. -/
def HasFrame (c : GtpConnection) (room : Nat) (now : MonotonicTime) : Prop :=
  0 < c.ackBytes room now ∨
    (∃ ctrl rest, c.hot.controlQueue = ctrl :: rest ∧ ctrl.buildControlFrame.needed ≤ room) ∨
    c.DataJoins room now

omit [CryptoSuite] in
theorem fitting_ne_nil_iff (activePath : SocketAddr) (room : Nat)
    (queue : List OutgoingControlFrame) : fitting activePath room queue ≠ [] ↔
      ∃ ctrl rest, queue = ctrl :: rest ∧ ctrl.buildControlFrame.needed ≤ room := by
  cases queue with
  | nil =>
    refine ⟨fun h => absurd rfl h, ?_⟩
    rintro ⟨ctrl, rest, h, -⟩
    cases h
  | cons ctrl rest =>
    rw [fitting]
    split
    · rename_i hle
      exact ⟨fun _ => ⟨ctrl, rest, rfl, hle⟩, fun _ => List.cons_ne_nil _ _⟩
    · rename_i hle
      refine ⟨fun h => absurd rfl h, ?_⟩
      rintro ⟨ctrl', rest', heq, hle'⟩
      obtain ⟨rfl, rfl⟩ := List.cons.inj heq
      exact absurd hle' hle

omit [CryptoSuite] in
/-- The draft has a frame exactly when something fits. -/
theorem frames_ne_nil_iff (c : GtpConnection) {b : PacketBuilder} {header : PacketHeader}
    (h : b.Carries header []) (now : MonotonicTime) :
    (c.assemble b now).1.frames ≠ [] ↔ c.HasFrame b.remainingCapacity now := by
  have hass := c.assemble_spec h now
  have hacked := c.appendAck_isSome_iff h now
  rw [← hass.ack] at hacked
  have hroom := c.controlRoom_eq h now
  have hframes : (c.assemble b now).1.frames ≠ [] ↔ (c.assemble b now).1.ack.isSome = true ∨
      (c.assemble b now).1.drained ≠ [] ∨ (c.assemble b now).1.popped ≠ [] := by
    rw [Draft.frames]
    cases (c.assemble b now).1.ack with
    | none => simp [Classical.or_iff_not_imp_left]
    | some f => simp
  rw [hframes, hacked, hass.data, hass.drained, fitting_ne_nil_iff, hroom, HasFrame]
  rcases Nat.eq_zero_or_pos (c.ackBytes b.remainingCapacity now) with hzero | hpos
  · rw [hzero, Nat.sub_zero]
  · exact ⟨fun _ => Or.inl hpos, fun _ => Or.inl hpos⟩

/-- **At least one frame.** A datagram that is handed out carries a frame exactly when the due ACK,
the first control frame or an item fits it.  Nothing is said about the size of what it carries, nor
whether it asks for an acknowledgement. -/
theorem frames_of_sent_iff {c : GtpConnection} {now : MonotonicTime} {outBuf : List UInt8}
    {dest : SocketAddr} {len : Nat}
    (h : (c.produceOutgoingDatagram now outBuf).result = .ok (some (dest, len))) :
    ∃ d hd, c.draft? now outBuf = some d ∧
      Sealed c.hot.txProtector hd (payloadOf d.frames)
        ((c.produceOutgoingDatagram now outBuf).buf.take len) ∧
      (d.frames ≠ [] ↔
        (c.prepare now).HasFrame (outBuf.length - minCommonHeaderLen) now) := by
  obtain ⟨b, hd, hcar, hcap, hdraft, -, hsealed⟩ := produce_draft h
  refine ⟨_, hd, hdraft, hsealed, ?_⟩
  rw [← hcap]
  exact (c.prepare now).frames_ne_nil_iff hcar now

/-! ## 6. Directed datagrams -/

omit [CryptoSuite] in
/-- The draft is one control frame, directed to `dest`, and nothing else. -/
def Draft.Alone (d : Draft) (dest : SocketAddr) : Prop :=
  ∃ ctrl, d.drained = [ctrl] ∧ ctrl.dest? = some dest ∧ d.frames = [ctrl.buildControlFrame]

omit [CryptoSuite] in
/-- The control queue starts with a directed frame that fits. -/
def DirectedFirst (c : GtpConnection) (room : Nat) : Prop :=
  ∃ ctrl rest, c.hot.controlQueue = ctrl :: rest ∧ ctrl.directed c.hot.activePath = true ∧
    ctrl.buildControlFrame.needed ≤ room

omit [CryptoSuite] in
theorem claim_directed {activePath dest : SocketAddr} {room : Nat}
    {queue : List OutgoingControlFrame} (h : claim activePath room queue = some dest) :
    ∃ ctrl ∈ queue, ctrl.directed activePath = true := by
  induction queue generalizing room with
  | nil => cases h
  | cons ctrl rest ih =>
    rw [claim] at h
    split at h
    · rename_i hdir
      exact ⟨ctrl, List.mem_cons_self, hdir⟩
    · split at h
      · obtain ⟨ctrl', hmem, hdir⟩ := ih h
        exact ⟨ctrl', List.mem_cons_of_mem _ hmem, hdir⟩
      · cases h

omit [CryptoSuite] in
/-- A claim is for another address than the active path. -/
theorem claim_ne_activePath {activePath dest : SocketAddr} {room : Nat}
    {queue : List OutgoingControlFrame} (h : claim activePath room queue = some dest) :
    dest ≠ activePath := by
  induction queue generalizing room with
  | nil => cases h
  | cons ctrl rest ih =>
    rw [claim] at h
    split at h
    · rename_i hdir
      rw [OutgoingControlFrame.directed, h] at hdir
      simpa using hdir
    · split at h
      · exact ih h
      · cases h

omit [CryptoSuite] in
/-- With a directed frame in the queue there is no ACK. -/
theorem ackBytes_of_directed {c : GtpConnection} {ctrl : OutgoingControlFrame}
    (hmem : ctrl ∈ c.hot.controlQueue) (hdir : ctrl.directed c.hot.activePath = true) (room : Nat)
    (now : MonotonicTime) : c.ackBytes room now = 0 := by
  have hany : c.hot.controlQueue.any (·.directed c.hot.activePath) = true :=
    List.any_eq_true.mpr ⟨ctrl, hmem, hdir⟩
  rw [ackBytes, hany, Bool.not_true, Bool.and_false, if_neg Bool.false_ne_true]

omit [CryptoSuite] in
/-- A claimed draft is what `fitting` takes, and nothing else. -/
theorem frames_of_claimed (c : GtpConnection) {b : PacketBuilder} {header : PacketHeader}
    (h : b.Carries header []) (now : MonotonicTime) {dest : SocketAddr}
    (hclaim : (c.assemble b now).1.overrideDest = some dest) :
    (c.assemble b now).1.drained =
        fitting c.hot.activePath b.remainingCapacity c.hot.controlQueue ∧
      (c.assemble b now).1.frames =
        (c.assemble b now).1.drained.map (·.buildControlFrame) ∧
      claim c.hot.activePath b.remainingCapacity c.hot.controlQueue = some dest := by
  have hass := c.assemble_spec h now
  have hroom := c.controlRoom_eq h now
  have hacked := c.appendAck_isSome_iff h now
  rw [← hass.ack] at hacked
  rw [hass.dest] at hclaim
  obtain ⟨ctrl, hmem, hdir⟩ := claim_directed hclaim
  rw [ackBytes_of_directed hmem hdir] at hroom hacked
  rw [Nat.sub_zero] at hroom
  have hack : (c.assemble b now).1.ack = none := by
    cases hd : (c.assemble b now).1.ack with
    | none => rfl
    | some f =>
      rw [hd] at hacked
      exact absurd (hacked.mp rfl) (Nat.lt_irrefl 0)
  have hpopped : (c.assemble b now).1.popped = [] := by
    by_contra hne
    obtain ⟨-, -, hnone, -⟩ := hass.data.mp hne
    rw [hclaim] at hnone
    cases hnone
  refine ⟨by rw [hass.drained, hroom], ?_, by rw [← hroom, hclaim]⟩
  rw [Draft.frames, hack, hpopped]
  simp

omit [CryptoSuite] in
/-- A claimed draft is the directed frame alone exactly when that frame is the first. -/
theorem alone_iff (c : GtpConnection) {b : PacketBuilder} {header : PacketHeader}
    (h : b.Carries header []) (now : MonotonicTime) {dest : SocketAddr}
    (hclaim : (c.assemble b now).1.overrideDest = some dest) :
    (c.assemble b now).1.Alone dest ↔ c.DirectedFirst b.remainingCapacity := by
  obtain ⟨hdrained, hframes, hdest⟩ := c.frames_of_claimed h now hclaim
  constructor
  · rintro ⟨ctrl, hone, hctrl, -⟩
    rw [hdrained] at hone
    cases hqueue : c.hot.controlQueue with
    | nil =>
      rw [hqueue] at hone
      cases hone
    | cons front rest =>
      rw [hqueue, fitting] at hone
      rw [hqueue, claim] at hdest
      split at hone
      · rename_i hle
        obtain ⟨rfl, htail⟩ := List.cons.inj hone
        by_cases hdir : front.directed c.hot.activePath = true
        · exact ⟨front, rest, hqueue, hdir, hle⟩
        · -- an undirected frame that has a destination goes to the active path, so the claim is
          -- not its own, and the frame that makes it has to be behind
          rw [if_neg hdir] at htail
          rw [if_neg hdir, if_pos hle] at hdest
          have hactive : dest = c.hot.activePath := by
            rw [OutgoingControlFrame.directed, hctrl] at hdir
            simpa using hdir
          exact absurd (claim_ne_activePath hdest) (not_not.mpr hactive)
      · cases hone
  · rintro ⟨ctrl, rest, hqueue, hdir, hle⟩
    have hone : (c.assemble b now).1.drained = [ctrl] := by
      rw [hdrained, hqueue, fitting, if_pos hle, if_pos hdir]
    refine ⟨ctrl, hone, ?_, ?_⟩
    · rw [hqueue, claim, if_pos hdir] at hdest
      exact hdest
    · rw [hframes, hone]
      rfl

/-- **Directed datagrams.** A datagram to another address than the active path carries the one frame
directed there exactly when that frame is the first of the control queue, and fits.  Otherwise the
frames in front of it go to that address too, or the frame itself stays behind. -/
theorem directed_alone_iff {c : GtpConnection} {now : MonotonicTime} {outBuf : List UInt8}
    {dest : SocketAddr} {len : Nat}
    (h : (c.produceOutgoingDatagram now outBuf).result = .ok (some (dest, len)))
    (hdest : dest ≠ c.hot.activePath) :
    ∃ d hd, c.draft? now outBuf = some d ∧
      Sealed c.hot.txProtector hd (payloadOf d.frames)
        ((c.produceOutgoingDatagram now outBuf).buf.take len) ∧
      (d.Alone dest ↔ c.DirectedFirst (outBuf.length - minCommonHeaderLen)) := by
  obtain ⟨b, hd, hcar, hcap, hdraft, hto, hsealed⟩ := produce_draft h
  refine ⟨_, hd, hdraft, hsealed, ?_⟩
  have hclaim : ((c.prepare now).assemble b now).1.overrideDest = some dest := by
    cases hov : ((c.prepare now).assemble b now).1.overrideDest with
    | none =>
      rw [hov] at hto
      exact absurd hto hdest
    | some dest' =>
      rw [hov] at hto
      exact congrArg some hto.symm
  have hfirst : c.DirectedFirst (outBuf.length - minCommonHeaderLen) ↔
      (c.prepare now).DirectedFirst (outBuf.length - minCommonHeaderLen) := by
    obtain ⟨ld, cc, s, pv, pac, cold, ev, hprep, -⟩ := c.prepare_spec now
    rw [DirectedFirst, DirectedFirst, hprep]
  rw [hfirst, ← hcap]
  exact (c.prepare now).alone_iff hcar now hclaim

end GtpConnection

/-! ## 7. On concrete connections -/

namespace GtpConnection

attribute [local instance] keyTagSuite

/-- The theorem at a connection with a ping to send. -/
theorem frames_of_sent_iff_ping :
    ∃ d, ((sampleSetup true).start.run [.sendPing 5]).draft? 10 (List.replicate 1500 0) = some d ∧
      d.frames ≠ [] := by
  have hres : (((sampleSetup true).start.run [.sendPing 5]).produceOutgoingDatagram 10
      (List.replicate 1500 0)).result = .ok (some (⟨1, 4433⟩, 49)) := by decide +kernel
  obtain ⟨d, hd, hdraft, -, hiff⟩ := frames_of_sent_iff hres
  refine ⟨d, hdraft, hiff.mpr (Or.inr (Or.inl ⟨.ping 5, [], rfl, ?_⟩))⟩
  rw [List.length_replicate]
  decide

/-- **An empty datagram.**  A probe for 2000 bytes does not fit, and the datagram leaves without
it. -/
theorem empty_datagram_sent :
    Reachable ((sampleSetup true).start.run [.triggerMtuProbe 1 2000]) ∧
      (((sampleSetup true).start.run [.triggerMtuProbe 1 2000]).produceOutgoingDatagram 10
        (List.replicate 1500 0)).result = .ok (some (⟨1, 4433⟩, 40)) ∧
      (((sampleSetup true).start.run [.triggerMtuProbe 1 2000]).draft? 10
        (List.replicate 1500 0)).map Draft.frames = some [] :=
  ⟨⟨_, _, rfl⟩, by decide +kernel⟩

/-- A challenge to another address, by itself. -/
def challenged : GtpConnection :=
  (sampleSetup true).start.run [.triggerPathChallenge ⟨2, 4433⟩ (List.Vector.replicate 8 0) 0]

/-- A ping, and then the challenge. -/
def pingedAndChallenged : GtpConnection :=
  (sampleSetup true).start.run
    [.sendPing 5, .triggerPathChallenge ⟨2, 4433⟩ (List.Vector.replicate 8 0) 0]

/-- The theorem at a connection with a challenge to another address. -/
theorem directed_alone_iff_challenge :
    ∃ d, challenged.draft? 10 (List.replicate 1500 0) = some d ∧ d.Alone ⟨2, 4433⟩ := by
  have hres : (challenged.produceOutgoingDatagram 10 (List.replicate 1500 0)).result =
      .ok (some (⟨2, 4433⟩, 49)) := by decide +kernel
  obtain ⟨d, hd, hdraft, -, hiff⟩ := directed_alone_iff hres (by decide +kernel)
  refine ⟨d, hdraft, hiff.mpr ⟨_, [], rfl, by decide +kernel, ?_⟩⟩
  rw [List.length_replicate]
  decide

/-- **In company.**  The ping is sent along, to the address that nobody has validated. -/
theorem ping_leaves_with_challenge :
    Reachable pingedAndChallenged ∧
      (pingedAndChallenged.produceOutgoingDatagram 10 (List.replicate 1500 0)).result =
        .ok (some (⟨2, 4433⟩, 58)) ∧
      pingedAndChallenged.hot.activePath = ⟨1, 4433⟩ ∧
      (pingedAndChallenged.draft? 10 (List.replicate 1500 0)).map Draft.frames =
        some [.ping 5, .pathChallenge (List.Vector.replicate 8 0)] :=
  ⟨⟨_, _, rfl⟩, by decide +kernel⟩

end GtpConnection

end Gtp
