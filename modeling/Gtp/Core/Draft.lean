/-
# What a draft carries

The assembly of a datagram, specified.  Each of its three loops has one lemma, and `assemble_spec`
is the whole.

* The builder carries exactly the frames that the draft lists.
* The ACK comes first, when it is due and no directed frame waits anywhere (`appendAck_spec`).
* The control frames it took are the longest front part of the queue that fits (`fitting`), up to
  and including the first directed one (`drainControls_spec`).
* The items it took were queued, and within the budget (`fillData_spec`).  Whether there are any is
  decided by the first one (`fillData_popped_iff`).
* Everything it took out of the queues came out of them, and the rest of the connection is
  untouched.

`controlRoom` and `drainable` say how much room there is before the draft is made, so that results
need not run the loops.  Which items beyond the first are taken is not described here; see
`Gtp.Core.Budget`.
-/
import Gtp.Core.Connection
import Gtp.Wire.Builder

namespace Gtp

open Frame PacketBuilder

namespace GtpConnection

/-! ## 1. Frames of the send path are never padding -/

theorem buildControlFrame_ne_padding (ctrl : OutgoingControlFrame) (n : Nat) :
    ctrl.buildControlFrame ≠ .padding n := by
  cases ctrl <;> exact Frame.noConfusion

theorem itemFrame_ne_padding (item : SchedulableItem) (n : Nat) : itemFrame item ≠ .padding n := by
  unfold itemFrame
  split <;> exact Frame.noConfusion

theorem buildControlFrame_oversize (ctrl : OutgoingControlFrame) :
    ctrl.buildControlFrame.oversize = false := by
  cases ctrl <;> rfl

theorem peekAckFrame_isAck {t : AckTracker} {now : MonotonicTime} {f : Frame}
    (h : t.peekAckFrame now = some f) : ∃ l d r n e0 e1 ce, f = .ack l d r n e0 e1 ce := by
  obtain ⟨largest, -, rfl⟩ := Option.map_eq_some_iff.mp h
  exact ⟨_, _, _, _, _, _, _, rfl⟩

/-! ## 2. The ACK -/

/-- The ACK frame, if one was appended, is on the builder, and nothing else is. -/
theorem appendAck_spec (c : GtpConnection) {b : PacketBuilder} {header : PacketHeader}
    (h : b.Carries header []) (now : MonotonicTime) :
    (c.appendAck b now).2.Carries header (c.appendAck b now).1.toList ∧
      (c.appendAck b now).2.buf.length = b.buf.length ∧
      (c.appendAck b now).2.remainingCapacity =
        b.remainingCapacity - ((c.appendAck b now).1.map needed).getD 0 := by
  have hnone : ((none : Option Frame), b).2.Carries header ((none : Option Frame), b).1.toList ∧
      ((none : Option Frame), b).2.buf.length = b.buf.length ∧
      ((none : Option Frame), b).2.remainingCapacity =
        b.remainingCapacity - (((none : Option Frame), b).1.map needed).getD 0 := ⟨h, rfl, rfl⟩
  unfold appendAck
  dsimp only
  split
  · split
    · rename_i ack hpeek
      obtain ⟨l, d, r, n, e0, e1, ce, rfl⟩ := peekAckFrame_isAck hpeek
      by_cases hfit : b.Fits (.ack l d r n e0 e1 ce)
      · obtain ⟨b', happ, hc, hlen, hcap⟩ := appendFrame_fits h hfit (fun _ => Frame.noConfusion)
        rw [happ]
        exact ⟨hc, hlen, hcap⟩
      · obtain ⟨e, b', happ, hc, hlen, hcap⟩ := appendFrame_not_fits h hfit
        rw [happ]
        exact ⟨hc, hlen, hcap⟩
    · exact hnone
  · exact hnone

theorem appendAck_isAck {c : GtpConnection} {b : PacketBuilder} {now : MonotonicTime}
    {f : Frame} (h : (c.appendAck b now).1 = some f) :
    ∃ l dl r n e0 e1 ce, f = .ack l dl r n e0 e1 ce := by
  unfold appendAck at h
  dsimp only at h
  split at h
  · split at h
    · rename_i hpeek
      split at h
      · obtain rfl := Option.some.inj h
        exact peekAckFrame_isAck hpeek
      · cases h
    · cases h
  · cases h

/-! ## 3. The control drain -/

/-- The control frames that the drain takes into `room` bytes: the front part of the queue that
fits, up to and including the first directed frame. -/
def fitting (activePath : SocketAddr) : Nat → List OutgoingControlFrame →
    List OutgoingControlFrame
  | _, [] => []
  | room, ctrl :: rest =>
    if ctrl.buildControlFrame.needed ≤ room then
      ctrl :: (if ctrl.directed activePath then []
        else fitting activePath (room - ctrl.buildControlFrame.needed) rest)
    else []

/-- The bytes that control frames take. -/
def controlBytes (ctrls : List OutgoingControlFrame) : Nat :=
  (ctrls.map fun ctrl => ctrl.buildControlFrame.needed).sum

/-- The destination that the drain is claimed for: that of the first directed frame it reaches,
which it may then not have room for. -/
def claim (activePath : SocketAddr) : Nat → List OutgoingControlFrame → Option SocketAddr
  | _, [] => none
  | room, ctrl :: rest =>
    if ctrl.directed activePath then ctrl.dest?
    else if ctrl.buildControlFrame.needed ≤ room then
      claim activePath (room - ctrl.buildControlFrame.needed) rest
    else none

/-- **The control drain.**  It takes `fitting` off the queue and onto the builder. -/
theorem drainControls_spec (activePath : SocketAddr) {header : PacketHeader}
    (queue : List OutgoingControlFrame) (d : Draft) (h : d.builder.Carries header d.frames)
    (hpopped : d.popped = []) (hdest : d.overrideDest = none) :
    let taken := fitting activePath d.builder.remainingCapacity queue
    let r := drainControls activePath d queue
    queue = taken ++ r.2 ∧ r.1.drained = d.drained ++ taken ∧ r.1.ack = d.ack ∧
      r.1.popped = [] ∧ r.1.builder.Carries header r.1.frames ∧
      r.1.builder.buf.length = d.builder.buf.length ∧
      r.1.builder.remainingCapacity = d.builder.remainingCapacity - controlBytes taken ∧
      r.1.overrideDest = claim activePath d.builder.remainingCapacity queue := by
  induction queue generalizing d with
  | nil => exact ⟨rfl, (List.append_nil _).symm, rfl, hpopped, h, rfl, rfl, hdest⟩
  | cons ctrl rest ih =>
    have hframes : ∀ b dest, (Draft.frames ⟨b, d.ack, d.drained ++ [ctrl], dest, d.popped⟩) =
        d.frames ++ [ctrl.buildControlFrame] := by
      intro b dest
      simp [Draft.frames, hpopped]
    dsimp only
    rw [fitting, claim, drainControls, hdest]
    simp only [Option.isSome_none, Bool.false_eq_true, if_false]
    by_cases hfit : d.builder.Fits ctrl.buildControlFrame
    · obtain ⟨b, happ, hc, hlen, hcap⟩ :=
        appendFrame_fits h hfit (buildControlFrame_ne_padding ctrl)
      rw [happ, if_pos hfit.1]
      dsimp only
      by_cases hdir : ctrl.directed activePath
      · -- a directed frame claims the datagram: the drain stops behind it
        obtain ⟨dest, hdest'⟩ : ∃ dest, ctrl.dest? = some dest := by
          unfold OutgoingControlFrame.directed at hdir
          split at hdir
          · exact ⟨_, by assumption⟩
          · cases hdir
        rw [if_pos hdir, if_pos hdir, if_pos hdir, hdest']
        have hstop : ∀ (d' : Draft) (q : List OutgoingControlFrame), d'.overrideDest = some dest →
            drainControls activePath d' q = (d', q) := by
          intro d' q hd'
          cases q with
          | nil => rfl
          | cons c q => rw [drainControls, hd']; rfl
        rw [hstop _ rest rfl]
        refine ⟨rfl, rfl, rfl, hpopped, ?_, hlen, ?_, rfl⟩
        · rw [hframes]
          exact hc
        · simpa [controlBytes] using hcap
      · rw [if_neg hdir, if_neg hdir, if_neg hdir, if_pos hfit.1]
        have hc' : (⟨b, d.ack, d.drained ++ [ctrl], none, d.popped⟩ : Draft).builder.Carries header
            (Draft.frames ⟨b, d.ack, d.drained ++ [ctrl], none, d.popped⟩) := by
          rw [hframes]
          exact hc
        obtain ⟨hq, hdr, hack, hpop, hcar, hbuf, hleft, hov⟩ := ih _ hc' hpopped rfl
        simp only [hcap] at hq hdr hleft hov
        refine ⟨?_, ?_, hack, hpop, hcar, hbuf.trans hlen, ?_, hov⟩
        · rw [List.cons_append, ← hq]
        · rw [hdr, List.append_assoc, List.singleton_append]
        · rw [hleft, Nat.sub_sub]
          rfl
    · obtain ⟨e, b, happ, hc, hlen, hcap⟩ := appendFrame_not_fits h hfit
      have hlarge : ¬ ctrl.buildControlFrame.needed ≤ d.builder.remainingCapacity :=
        fun hle => hfit ⟨hle, buildControlFrame_oversize ctrl⟩
      rw [happ, if_neg hlarge, if_neg hlarge]
      exact ⟨rfl, (List.append_nil _).symm, rfl, hpopped, hc, hlen, hcap, rfl⟩

/-! ## 4. The data loop -/

/-- One more item, one more frame at the end. -/
theorem Draft.carries_push {d : Draft} {b : PacketBuilder} {header : PacketHeader}
    {item : SchedulableItem} (h : b.Carries header (d.frames ++ [itemFrame item])) :
    ({ d with builder := b, popped := d.popped ++ [item] } : Draft).builder.Carries header
      (Draft.frames { d with builder := b, popped := d.popped ++ [item] }) := by
  have hframes : Draft.frames { d with builder := b, popped := d.popped ++ [item] } =
      d.frames ++ [itemFrame item] := by
    simp [Draft.frames]
  rw [hframes]
  exact h

/-- The data loop changes the scheduler and one drop counter. -/
def TakesData (c c' : GtpConnection) : Prop :=
  ∃ s n, c' = { c with hot.scheduler := s, cold.totalDroppedFrames := n } ∧
    ∀ x, s.Has x → c.hot.scheduler.Has x

theorem TakesData.refl (c : GtpConnection) : TakesData c c :=
  ⟨c.hot.scheduler, c.cold.totalDroppedFrames, rfl, fun _ h => h⟩

theorem TakesData.trans {c c' c'' : GtpConnection} (h : TakesData c c') (h' : TakesData c' c'') :
    TakesData c c'' := by
  obtain ⟨s, n, rfl, hs⟩ := h
  obtain ⟨s', n', rfl, hs'⟩ := h'
  exact ⟨s', n', rfl, fun x hx => hs x (hs' x hx)⟩

/-- **The data loop.**  The items it popped were queued, and their frames are on the builder. -/
theorem fillData_spec (budget : Nat) (now : MonotonicTime) {header : PacketHeader} (fuel : Nat)
    (d : Draft) (c : GtpConnection) (h : d.builder.Carries header d.frames) :
    let r := fillData budget now fuel d c
    TakesData c r.2 ∧ r.1.ack = d.ack ∧ r.1.drained = d.drained ∧
      r.1.overrideDest = d.overrideDest ∧ r.1.builder.Carries header r.1.frames ∧
      r.1.builder.buf.length = d.builder.buf.length ∧
      ∃ items, r.1.popped = d.popped ++ items ∧ ∀ x ∈ items, c.hot.scheduler.Has x := by
  induction fuel generalizing d c with
  | zero => exact ⟨.refl c, rfl, rfl, rfl, h, rfl, [], (List.append_nil _).symm, by simp⟩
  | succ fuel ih =>
    dsimp only
    rw [fillData]
    split
    · rcases hpop : c.hot.scheduler.popNext (min budget d.builder.remainingCapacity) now with
        ⟨front, s⟩
      obtain ⟨hhas, hfront⟩ := GameScheduler.popNext_spec c.hot.scheduler
        (min budget d.builder.remainingCapacity) now
      rw [hpop] at hhas hfront
      cases front with
      | none =>
        exact ⟨⟨s, _, rfl, hhas⟩, rfl, rfl, rfl, h, rfl, [], (List.append_nil _).symm, by simp⟩
      | some item =>
        have hitem : c.hot.scheduler.Has item := (hfront item rfl).1
        dsimp only
        by_cases hfit : d.builder.Fits (itemFrame item)
        · obtain ⟨b, happ, hc, hlen, -⟩ :=
            appendFrame_fits h hfit (itemFrame_ne_padding item)
          rw [happ]
          dsimp only
          obtain ⟨htake, hack, hdr, hov, hcar, hbuf, items, hitems, hmem⟩ :=
            ih _ { c with hot.scheduler := s } (Draft.carries_push hc)
          refine ⟨TakesData.trans ⟨s, c.cold.totalDroppedFrames, rfl, hhas⟩ htake, hack, hdr, hov,
            hcar, hbuf.trans hlen, item :: items, ?_, ?_⟩
          · rw [hitems, List.append_assoc, List.singleton_append]
          · intro x hx
            rcases List.mem_cons.mp hx with rfl | hx
            · exact hitem
            · exact hhas x (hmem x hx)
        · obtain ⟨e, b, happ, hc, hlen, -⟩ := appendFrame_not_fits h hfit
          rw [happ]
          dsimp only
          refine ⟨⟨_, _, rfl, ?_⟩, rfl, rfl, rfl, hc, hlen, [], (List.append_nil _).symm, by simp⟩
          intro x hx
          rcases GameScheduler.requeue_has hx with hx | rfl
          · exact hhas x hx
          · exact hitem
    · exact ⟨.refl c, rfl, rfl, rfl, h, rfl, [], (List.append_nil _).symm, by simp⟩

/-- The first item, with `left` bytes in the datagram: handed out within the budget, and it fits. -/
def FirstItem (s : GameScheduler) (budget left : Nat) (now : MonotonicTime) : Prop :=
  ∃ item, (s.popNext (min budget left) now).1 = some item ∧ (itemFrame item).needed ≤ left ∧
    (itemFrame item).oversize = false

/-- The loop adds data exactly when more than 64 bytes are left, no directed frame has claimed the
datagram, and the scheduler hands out an item that fits. -/
theorem fillData_popped_iff (budget : Nat) (now : MonotonicTime) {header : PacketHeader}
    (d : Draft) (c : GtpConnection) (h : d.builder.Carries header d.frames)
    (hpopped : d.popped = []) :
    (fillData budget now d.builder.remainingCapacity d c).1.popped ≠ [] ↔
      64 < d.builder.remainingCapacity ∧ d.overrideDest = none ∧
        FirstItem c.hot.scheduler budget d.builder.remainingCapacity now := by
  cases hfuel : d.builder.remainingCapacity with
  | zero =>
    rw [fillData, hpopped]
    exact ⟨fun hne => absurd rfl hne, fun ⟨hlt, _⟩ => absurd hlt (by decide)⟩
  | succ fuel =>
    rw [fillData, ← hfuel]
    by_cases hloop : 64 < d.builder.remainingCapacity ∧ d.overrideDest.isNone = true
    · rw [if_pos hloop]
      have hdest := Option.isNone_iff_eq_none.mp hloop.2
      rcases hpop : c.hot.scheduler.popNext (min budget d.builder.remainingCapacity) now with
        ⟨front, s⟩
      cases front with
      | none =>
        rw [hpopped]
        refine ⟨fun hne => absurd rfl hne, fun ⟨_, _, item, hitem, _⟩ => ?_⟩
        rw [hpop] at hitem
        cases hitem
      | some item =>
        dsimp only
        by_cases hfit : d.builder.Fits (itemFrame item)
        · obtain ⟨b, happ, hc, -, -⟩ := appendFrame_fits h hfit (itemFrame_ne_padding item)
          rw [happ]
          dsimp only
          obtain ⟨-, -, -, -, -, -, items, hitems, -⟩ :=
            fillData_spec budget now fuel _ { c with hot.scheduler := s } (Draft.carries_push hc)
          rw [hitems]
          refine ⟨fun _ => ⟨hloop.1, hdest, item, by rw [hpop], hfit⟩, fun _ => ?_⟩
          simp
        · obtain ⟨e, b, happ, -, -, -⟩ := appendFrame_not_fits h hfit
          rw [happ]
          dsimp only
          rw [hpopped]
          refine ⟨fun hne => absurd rfl hne, fun ⟨_, _, item', hitem', hfit'⟩ => ?_⟩
          rw [hpop] at hitem'
          obtain rfl := Option.some.inj hitem'
          exact absurd hfit' hfit
    · rw [if_neg hloop, hpopped]
      refine ⟨fun hne => absurd rfl hne, fun ⟨hlt, hdest, _⟩ => ?_⟩
      exact absurd ⟨hlt, by rw [hdest]; rfl⟩ hloop

/-! ## 5. The whole draft -/

/-- The room that the ACK leaves for control frames. -/
def controlRoom (c : GtpConnection) (b : PacketBuilder) (now : MonotonicTime) : Nat :=
  b.remainingCapacity - ((c.appendAck b now).1.map needed).getD 0

/-- The data loop adds an item when the control frames have left `left` bytes. -/
def DataJoins (c : GtpConnection) (room : Nat) (now : MonotonicTime) : Prop :=
  let left := room - controlBytes (fitting c.hot.activePath room c.hot.controlQueue)
  c.hot.state = .established ∧ 64 < left ∧
    claim c.hot.activePath room c.hot.controlQueue = none ∧
    FirstItem c.hot.scheduler c.sendBudget left now

/-- **The draft.**  Its frames are on the builder; its control frames are the part of the queue
that fits behind the ACK; its items were queued; the rest of the connection is untouched. -/
structure Assembled (c : GtpConnection) (b : PacketBuilder) (header : PacketHeader)
    (now : MonotonicTime) (d : Draft) (c2 : GtpConnection) : Prop where
  conn : c2 = { c with
    hot.controlQueue := c2.hot.controlQueue, hot.scheduler := c2.hot.scheduler
    cold.totalDroppedFrames := c2.cold.totalDroppedFrames }
  has : ∀ x, c2.hot.scheduler.Has x → c.hot.scheduler.Has x
  queue : c.hot.controlQueue = d.drained ++ c2.hot.controlQueue
  drained : d.drained = fitting c.hot.activePath (c.controlRoom b now) c.hot.controlQueue
  ack : d.ack = (c.appendAck b now).1
  dest : d.overrideDest = claim c.hot.activePath (c.controlRoom b now) c.hot.controlQueue
  carries : d.builder.Carries header d.frames
  bufLength : d.builder.buf.length = b.buf.length
  popped : ∀ x ∈ d.popped, c.hot.scheduler.Has x
  data : d.popped ≠ [] ↔ c.DataJoins (c.controlRoom b now) now

theorem assemble_spec (c : GtpConnection) {b : PacketBuilder} {header : PacketHeader}
    (h : b.Carries header []) (now : MonotonicTime) :
    Assembled c b header now (c.assemble b now).1 (c.assemble b now).2 := by
  obtain ⟨hcar, hlen, hcap⟩ := c.appendAck_spec h now
  have hroom : c.controlRoom b now = (c.appendAck b now).2.remainingCapacity := hcap.symm
  rcases hack : c.appendAck b now with ⟨ack, b1⟩
  rw [hack] at hcar hlen hroom
  dsimp only at hcar hlen hroom
  have hcar' : (⟨b1, ack, [], none, []⟩ : Draft).builder.Carries header
      (Draft.frames ⟨b1, ack, [], none, []⟩) := by
    simpa [Draft.frames] using hcar
  obtain ⟨hq, hdr, hack', hpop, hc2, hlen2, hleft, hov⟩ :=
    drainControls_spec c.hot.activePath c.hot.controlQueue _ hcar' rfl rfl
  rcases hdrain : drainControls c.hot.activePath ⟨b1, ack, [], none, []⟩ c.hot.controlQueue with
    ⟨d, rest⟩
  rw [hdrain] at hq hdr hack' hpop hc2 hlen2 hleft hov
  dsimp only [List.nil_append] at hq hdr hack' hpop hc2 hlen2 hleft hov
  rw [← hroom] at hq hdr hleft hov
  have hass : c.assemble b now = if c.hot.state = .established then
      fillData c.sendBudget now d.builder.remainingCapacity d { c with hot.controlQueue := rest }
      else (d, { c with hot.controlQueue := rest }) := by
    rw [assemble, hack]
    simp only [hdrain]
  rw [← hdr] at hq
  rw [hass]
  split
  · rename_i hest
    obtain ⟨⟨s, n, hs, hhas⟩, ha, hd, hov', hc3, hlen3, items, hitems, hmem⟩ :=
      fillData_spec c.sendBudget now d.builder.remainingCapacity d
        { c with hot.controlQueue := rest } hc2
    have hiff := fillData_popped_iff c.sendBudget now d { c with hot.controlQueue := rest } hc2 hpop
    generalize hfill : fillData c.sendBudget now d.builder.remainingCapacity d
      { c with hot.controlQueue := rest } = r at hs ha hd hov' hc3 hlen3 hitems hiff ⊢
    obtain ⟨d3, c3⟩ := r
    dsimp only at hs ha hd hov' hc3 hlen3 hitems hiff ⊢
    subst hs
    refine ⟨rfl, hhas, ?_, ?_, ?_, ?_, hc3, hlen3.trans (hlen2.trans hlen), ?_, ?_⟩
    · rw [hd]
      exact hq
    · rw [hd, hdr]
    · rw [ha, hack', hack]
    · rw [hov', hov]
    · rw [hitems, hpop, List.nil_append]
      exact hmem
    · rw [hiff, DataJoins, hov, hleft]
      exact ⟨fun hj => ⟨hest, hj⟩, fun hj => hj.2⟩
  · rename_i hest
    refine ⟨rfl, fun _ hx => hx, hq, hdr, ?_, hov, hc2, hlen2.trans hlen, ?_, ?_⟩
    · rw [hack', hack]
    · rw [hpop]
      intro x hx
      cases hx
    · rw [hpop]
      exact ⟨fun hne => absurd rfl hne, fun hj => absurd hj.1 hest⟩

/-! ## 6. The room of the control frames, before the draft -/

/-- The bytes of the ACK frame that a datagram with `room` bytes takes first. -/
def ackBytes (c : GtpConnection) (room : Nat) (now : MonotonicTime) : Nat :=
  if c.hot.ackTracker.shouldSendAck now && !c.hot.controlQueue.any (·.directed c.hot.activePath) then
    match c.hot.ackTracker.peekAckFrame now with
    | some frame => if frame.needed ≤ room then frame.needed else 0
    | none => 0
  else 0

theorem appendAck_bytes (c : GtpConnection) {b : PacketBuilder} {header : PacketHeader}
    (h : b.Carries header []) (now : MonotonicTime) :
    ((c.appendAck b now).1.map needed).getD 0 = c.ackBytes b.remainingCapacity now := by
  unfold appendAck ackBytes
  dsimp only
  split
  · cases hpeek : c.hot.ackTracker.peekAckFrame now with
    | none => rfl
    | some frame =>
      obtain ⟨l, d, r, n, e0, e1, ce, rfl⟩ := peekAckFrame_isAck hpeek
      dsimp only
      by_cases hfit : b.Fits (.ack l d r n e0 e1 ce)
      · obtain ⟨b', happ, -⟩ := appendFrame_fits h hfit (fun _ => Frame.noConfusion)
        rw [happ, if_pos hfit.1]
        rfl
      · obtain ⟨e, b', happ, -⟩ := appendFrame_not_fits h hfit
        have hlarge : ¬ needed (.ack l d r n e0 e1 ce) ≤ b.remainingCapacity :=
          fun hle => hfit ⟨hle, rfl⟩
        rw [happ, if_neg hlarge]
        rfl
  · rfl

theorem controlRoom_eq (c : GtpConnection) {b : PacketBuilder} {header : PacketHeader}
    (h : b.Carries header []) (now : MonotonicTime) :
    c.controlRoom b now = b.remainingCapacity - c.ackBytes b.remainingCapacity now := by
  rw [controlRoom, c.appendAck_bytes h now]

theorem appendAck_isSome_iff (c : GtpConnection) {b : PacketBuilder} {header : PacketHeader}
    (h : b.Carries header []) (now : MonotonicTime) :
    (c.appendAck b now).1.isSome = true ↔ 0 < c.ackBytes b.remainingCapacity now := by
  rw [← c.appendAck_bytes h now]
  cases (c.appendAck b now).1 with
  | none => simp
  | some f => simp [needed_pos]

/-- The control frames that a call with a buffer of `len` bytes takes off the queue. -/
def drainable (c : GtpConnection) (now : MonotonicTime) (len : Nat) : List OutgoingControlFrame :=
  let room := len - minCommonHeaderLen
  fitting c.hot.activePath (room - c.ackBytes room now) c.hot.controlQueue

end GtpConnection

end Gtp
